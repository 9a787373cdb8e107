import TagRules.Engine.Counters

/-
  The memory of recent matches.

  A row says which tag and name matched and by what class of rule, and there are so
  many rows at most.  A row that is looked up or stored becomes the latest, and a new row
  pushes out the one that has been left alone longest.  A row is good for a time from
  when it was stored; one that is looked up later is removed.
-/

namespace TagRules

/-- A match that is remembered: of what, by what class, and when it was stored. -/
structure MatchRow where
  tag : String
  name : String
  cls : CountClass
  stored : Nat
  deriving DecidableEq, Repr

def MatchRow.isFor (tag name : String) (row : MatchRow) : Bool := row.tag == tag && row.name == name

/-- Rows, the latest first.  Times are in the unit of the time to live. -/
structure RecentMatches where
  capacity : Nat
  ttl : Nat
  rows : List MatchRow
  deriving DecidableEq, Repr

namespace RecentMatches

/-- No rows.  There is room for one at least. -/
def create (capacity ttl : Nat) : RecentMatches := ⟨max capacity 1, ttl, []⟩

def others (recent : RecentMatches) (tag name : String) : List MatchRow :=
  recent.rows.filter fun row => !row.isFor tag name

/-- Whether a row is still good. -/
def isLive (recent : RecentMatches) (now : Nat) (row : MatchRow) : Bool :=
  now - row.stored < recent.ttl

def get (recent : RecentMatches) (now : Nat) (tag name : String) :
    Option CountClass × RecentMatches :=
  match recent.rows.find? (MatchRow.isFor tag name) with
  | none => (none, recent)
  | some row =>
    if recent.isLive now row then
      (some row.cls, { recent with rows := row :: recent.others tag name })
    else (none, { recent with rows := recent.others tag name })

def insert (recent : RecentMatches) (now : Nat) (tag name : String) (cls : CountClass) :
    RecentMatches :=
  { recent with rows := (⟨tag, name, cls, now⟩ :: recent.others tag name).take recent.capacity }

def clear (recent : RecentMatches) : RecentMatches := { recent with rows := [] }

def size (recent : RecentMatches) : Nat := recent.rows.length

end RecentMatches

end TagRules
