import TagRules.Proofs.Surroundings.Requests
import TagRules.Table

/-
  A table over time.

  What a call does to a table is decided by what it finds of the source (`refreshAmid_eq`):
  the version that a look shows and then the content, either of which may be out of reach.
  The rest of the surroundings has no part in it and is changed by a request at most.

  Between two calls of a table anything may happen, and the files may even change within a
  call, after the look and before the reading.  So a `Step` is a call with all that is
  around it, and a `Run` keeps a record of its calls with what each one saw and returned.
-/

namespace TagRules

open Text

namespace Source

/-- What a call finds of a source: nothing, of rules given with the table, and else a version and
then a content, unless there is an error before the one or the other. -/
abbrev View := Except Error (Option (Version × Except Error Bytes))

/-- What a call finds that looks at some surroundings and reads from later files. -/
def view (source : Source) (s : Surroundings) (later : FileTree) : View :=
  match source with
  | inline _ => .ok none
  | file path =>
    match s.files.metadata path with
    | .error fault => .error (.file fault)
    | .ok seen => .ok (some (.file seen, (later.read path).mapError .file))
  | url u =>
    match s.remote.answer u with
    | .error fault => .error (.fetch u fault)
    | .ok body => .ok (some (.body (sha256 body), .ok body))

/-- What is around after a call: a URL was asked for once. -/
def ask (source : Source) (timeout : Nat) (s : Surroundings) : Surroundings :=
  match source with
  | inline _ | file _ => s
  | url u => { s with remote := s.remote.count u timeout }

theorem ask_onlyRequests (source : Source) (timeout : Nat) (s : Surroundings) :
    s.OnlyRequests (source.ask timeout s) := by
  cases source with
  | inline text => exact .refl s
  | file path => exact .refl s
  | url u => exact ⟨rfl, .count s.remote u timeout⟩

end Source

namespace Table

/-- What a call does with what it finds. -/
def settle (t : Table) (force : Bool) : Source.View → Except Error Outcome × Table
  | .error e => (.error e, t)
  | .ok none => (.ok .static, t)
  | .ok (some (version, content)) =>
    if t.isCurrent force version then (.ok .unchanged, t)
    else match content with
      | .error e => (.error e, t)
      | .ok bytes => (.ok (t.publish ⟨version, bytes⟩).1, (t.publish ⟨version, bytes⟩).2)

theorem refreshAmid_eq (t : Table) (force : Bool) (timeout : Nat) (s : Surroundings)
    (later : FileTree) :
    t.refreshAmid force timeout s later =
      ((t.settle force (t.source.view s later)).1, (t.settle force (t.source.view s later)).2,
        { t.source.ask timeout s with files := later }) := by
  unfold refreshAmid
  cases t.source with
  | inline text => rfl
  | file path =>
    unfold refreshFile Source.view
    dsimp only
    cases s.files.metadata path with
    | error fault => rfl
    | ok seen =>
      dsimp only [settle]
      split
      · rfl
      · cases later.read path <;> rfl
  | url u =>
    unfold Surroundings.fetch refreshBody Source.view
    dsimp only
    cases s.remote.answer u with
    | error fault => rfl
    | ok body =>
      dsimp only [settle]
      split <;> rfl

theorem refresh_eq (t : Table) (force : Bool) (timeout : Nat) (s : Surroundings) :
    t.refresh force timeout s =
      ((t.settle force (t.source.view s s.files)).1, (t.settle force (t.source.view s s.files)).2,
        t.source.ask timeout s) := by
  unfold refresh
  rw [refreshAmid_eq]
  cases t.source <;> rfl

theorem settle_eq_error_iff {t : Table} {force : Bool} {version : Source.Version}
    {content : Except Error Bytes} {e : Error} :
    (t.settle force (.ok (some (version, content)))).1 = .error e ↔
      t.isCurrent force version = false ∧ content = .error e := by
  dsimp only [settle]
  cases t.isCurrent force version with
  | true => simp
  | false => cases content <;> simp

theorem settle_frame (t : Table) (force : Bool) (found : Source.View) :
    (t.settle force found).2.kind = t.kind ∧ (t.settle force found).2.tag = t.tag ∧
      (t.settle force found).2.source = t.source := by
  unfold settle
  split
  · exact ⟨rfl, rfl, rfl⟩
  · exact ⟨rfl, rfl, rfl⟩
  · split
    · exact ⟨rfl, rfl, rfl⟩
    · split <;> exact ⟨rfl, rfl, rfl⟩

/-! ## Runs -/

/-- A call, which is a load if the rules are to be taken in any case and a reload if not, with what
is around it: `later` are the files as they are when it comes to reading. -/
structure Step where
  forced : Bool
  timeout : Nat
  seen : Surroundings
  later : FileTree

namespace Step

/-- What a call returns and the table that it leaves. -/
def act (step : Step) (t : Table) : Except Error Outcome × Table :=
  let (result, t, _) := t.refreshAmid step.forced step.timeout step.seen step.later
  (result, t)

theorem act_eq (step : Step) (t : Table) :
    step.act t = t.settle step.forced (t.source.view step.seen step.later) := by
  unfold act
  rw [refreshAmid_eq]

theorem act_frame (step : Step) (t : Table) :
    (step.act t).2.kind = t.kind ∧ (step.act t).2.tag = t.tag ∧
      (step.act t).2.source = t.source := by
  rw [act_eq]
  exact t.settle_frame _ _

/-- A call while the files stay as they are. -/
def amidNothing (forced : Bool) (timeout : Nat) (s : Surroundings) : Step :=
  ⟨forced, timeout, s, s.files⟩

end Step

/-- What is kept of a call. -/
structure Call where
  forced : Bool
  seen : Surroundings
  later : FileTree
  result : Except Error Outcome

def Step.call (step : Step) (t : Table) : Call :=
  ⟨step.forced, step.seen, step.later, (step.act t).1⟩

theorem findSome?_reverse_append {α : Type} (f : Call → Option α) (calls : List Call)
    (call : Call) :
    (calls ++ [call]).reverse.findSome? f = (f call).or (calls.reverse.findSome? f) := by
  rw [List.reverse_append, List.reverse_singleton, List.singleton_append, List.findSome?_cons]
  cases f call <;> rfl

/-- A table and the calls so far. -/
structure Run where
  table : Table
  calls : List Call

namespace Run

def start (t : Table) : Run := ⟨t, []⟩

def step (r : Run) (step : Step) : Run :=
  ⟨(step.act r.table).2, r.calls ++ [step.call r.table]⟩

def take (r : Run) (steps : List Step) : Run := steps.foldl step r

theorem take_append (r : Run) (steps : List Step) (s : Step) :
    r.take (steps ++ [s]) = (r.take steps).step s := by
  simp [take]

end Run

end Table

end TagRules
