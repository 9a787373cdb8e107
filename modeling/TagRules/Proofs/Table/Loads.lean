import TagRules.Proofs.Surroundings.Requests
import TagRules.Proofs.Table.Calls

/-
  The rules of a table are those of its current load.

  A table takes its rules from lines when it is made, if it is given some, and whenever a
  call replaces its rules.  `currentLines` finds the latest of them in the record of its
  calls, and `IsCurrent` says that the rules are what these lines say.  That holds of a
  new table and is kept by every call, whatever the call returns.

  A call looks at the files and at what a URL gives, and counts requests.  So while every URL
  goes on giving the same, the calls of several tables one after the other do not get in
  each other's way (`refresh_congr`).
-/

namespace TagRules

open Text

/-! ## What a call looks at -/

namespace Source

theorem view_congr {s s' : Surroundings} (source : Source) (hfiles : s'.files = s.files)
    (hanswer : ∀ url, source = .url url → s'.remote.answer url = s.remote.answer url) :
    source.view s' s'.files = source.view s s.files := by
  cases source with
  | inline text => rfl
  | file path =>
    dsimp only [view]
    rw [hfiles]
  | url u =>
    dsimp only [view]
    rw [hanswer u rfl]

/-- The lines that a source gives a new table. -/
def givenLines (source : Source) (tag : String) : List (List Char) :=
  match source with
  | inline text => Table.givenLines tag text.toList
  | file _ | url _ => []

end Source

namespace Table

theorem refresh_onlyRequests (t : Table) (force : Bool) (timeout : Nat) (s : Surroundings) :
    s.OnlyRequests (t.refresh force timeout s).2.2 := by
  rw [refresh_eq]
  exact t.source.ask_onlyRequests timeout s

theorem refresh_congr {s s' : Surroundings} (h : s.OnlyRequests s') (hs : s.remote.Steady)
    (t : Table) (force : Bool) (timeout : Nat) :
    (t.refresh force timeout s').1 = (t.refresh force timeout s).1 ∧
      (t.refresh force timeout s').2.1 = (t.refresh force timeout s).2.1 := by
  rw [refresh_eq, refresh_eq,
    t.source.view_congr h.files_eq fun url _ => h.later.answer_eq hs url]
  exact ⟨rfl, rfl⟩

theorem refresh_frame (t : Table) (force : Bool) (timeout : Nat) (s : Surroundings) :
    (t.refresh force timeout s).2.1.kind = t.kind ∧ (t.refresh force timeout s).2.1.tag = t.tag ∧
      (t.refresh force timeout s).2.1.source = t.source :=
  (Step.amidNothing force timeout s).act_frame t

/-! ## The lines of the current load -/

/-- The lines from which a call took the rules, if it replaced them. -/
def Call.lines? (source : Source) (call : Call) : Option (List (List Char)) :=
  match call.result, source.view call.seen call.later with
  | .ok (.reloaded _ _), .ok (some (_, .ok content)) => some (lines (ofUtf8Lossy content))
  | _, _ => none

/-- The lines of the latest call that replaced the rules, or those the table was given with. -/
def currentLines (t : Table) (calls : List Call) : List (List Char) :=
  (calls.reverse.findSome? (Call.lines? t.source)).getD (t.source.givenLines t.tag)

/-- The rules are what the lines of the current load say. -/
def IsCurrent (t : Table) (calls : List Call) : Prop :=
  t.rules = (RuleSet.ofLines t.kind t.tag (t.currentLines calls)).1

theorem currentLines_append (t : Table) (calls : List Call) (call : Call) :
    t.currentLines (calls ++ [call]) =
      (call.lines? t.source).getD (t.currentLines calls) := by
  unfold currentLines
  rw [findSome?_reverse_append]
  cases call.lines? t.source <;> rfl

theorem ofLines_nil (kind : TableKind) (tag : String) :
    (RuleSet.ofLines kind tag []).1 = RuleSet.empty kind := by
  cases kind <;> rfl

theorem create_frame (kind : TableKind) (tag : String) (source : Source) :
    (create kind tag source).kind = kind ∧ (create kind tag source).tag = Tag.normalize tag := by
  cases source <;> exact ⟨rfl, rfl⟩

theorem create_isCurrent (kind : TableKind) (tag : String) (source : Source) :
    (create kind tag source).IsCurrent [] := by
  cases source with
  | inline text => rfl
  | file path => exact (ofLines_nil kind _).symm
  | url u => exact (ofLines_nil kind _).symm

/-- By cases on what the call finds, and whether it is taken. -/
theorem IsCurrent.act {t : Table} {calls : List Call} (h : t.IsCurrent calls) (step : Step) :
    (step.act t).2.IsCurrent (calls ++ [step.call t]) := by
  obtain ⟨hkind, htag, hsource⟩ := step.act_frame t
  have hcurrent : (step.act t).2.currentLines calls = t.currentLines calls := by
    unfold currentLines
    rw [htag, hsource]
  unfold IsCurrent at h ⊢
  rw [currentLines_append, hkind, htag, hsource, hcurrent]
  unfold Step.call Call.lines?
  rw [Step.act_eq]
  rcases t.source.view step.seen step.later with _ | _ | ⟨version, _ | content⟩
  · exact h
  · exact h
  · dsimp only [settle]
    split <;> exact h
  · dsimp only [settle]
    split
    · exact h
    · rfl

theorem IsCurrent.refresh {t : Table} {calls : List Call} (h : t.IsCurrent calls) (force : Bool)
    (timeout : Nat) (s : Surroundings) :
    (t.refresh force timeout s).2.1.IsCurrent
      (calls ++ [⟨force, s, s.files, (t.refresh force timeout s).1⟩]) :=
  h.act (.amidNothing force timeout s)

theorem Run.isCurrent_take {r : Run} (h : r.table.IsCurrent r.calls) (steps : List Step) :
    (r.take steps).table.IsCurrent (r.take steps).calls := by
  induction steps generalizing r with
  | nil => exact h
  | cons next rest ih => exact ih (r := r.step next) (h.act next)

end Table

end TagRules
