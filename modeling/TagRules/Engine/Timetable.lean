import TagRules.Engine.Reload

/-
  Periodic reloads.

  From its start on, a timetable has every table reloaded at the multiples of one
  period and the geographic sets rebuilt at the multiples of another; times are in
  milliseconds.  Where both fall together the tables come first.  `due` lists what
  falls into a stretch of time.
-/

namespace TagRules

/-- What is done periodically. -/
inductive Job where
  | tables
  | geo
  deriving DecidableEq, Repr

/-- The two periods. -/
structure Timetable where
  tablePeriod : Nat
  geoPeriod : Nat
  deriving DecidableEq, Repr

namespace Timetable

/-- The first multiple of a period after a time. -/
def next (period now : Nat) : Nat := (now / period + 1) * period

/-- The jobs at a time. -/
def jobsAt (t : Timetable) (time : Nat) : List Job :=
  (if time % t.tablePeriod = 0 then [.tables] else []) ++
    (if time % t.geoPeriod = 0 then [.geo] else [])

/-- The jobs after a time and up to another, in order. -/
def due (t : Timetable) (now stop : Nat) : List Job :=
  let time := min (next t.tablePeriod now) (next t.geoPeriod now)
  if now < time ∧ time ≤ stop then t.jobsAt time ++ t.due time stop else []
termination_by stop - now

end Timetable

namespace Engine

/-- Does a job at its time; its result is of no interest. -/
def run (e : Engine) (job : Job) (s : Surroundings) : Engine × Surroundings :=
  match job with
  | .tables => (e.reloadTables .all s).2
  | .geo => (e.rebuildGeo false s).2

end Engine

end TagRules
