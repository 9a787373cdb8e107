import TagRules.Proofs.Table.Calls

/-
  Calls that fail leave no trace in a table.

  A call can fail when its URL gives nothing, when its file is not there, and when the file
  is there but cannot be read (`act_eq_error_iff`).  In each case the table is what it was,
  its rules as well as what it remembers of its source (`act_of_error`): although a look at
  the file comes before the reading, what it showed is not remembered unless the content
  was read as well.

  `withoutFailures` deletes from a run the calls that fail in it.  What is seen of the
  shorter run, call by call, is what is seen of the whole one without the failures
  (`history_withoutFailures`), and the two end with the same table
  (`table_withoutFailures`).
-/

namespace TagRules.Table

open Text

/-! ## One call -/

/-- By cases on where a call can end: only after a content was read the table is another one. -/
theorem settle_of_error {t : Table} {force : Bool} {found : Source.View} {e : Error}
    (h : (t.settle force found).1 = .error e) : (t.settle force found).2 = t := by
  rcases found with _ | _ | ⟨version, _ | bytes⟩
  · rfl
  · cases h
  · dsimp only [settle]
    split <;> rfl
  · dsimp only [settle] at h
    split at h <;> cases h

namespace Step

/-- A call fails exactly if its URL gives nothing, or if its file cannot be looked at, or if it
cannot be read although the look shows another version than the one last taken. -/
theorem act_eq_error_iff (step : Step) (t : Table) :
    (∃ e, (step.act t).1 = .error e) ↔
      match t.source with
      | .inline _ => False
      | .file path =>
        (∃ fault, step.seen.files.metadata path = .error fault) ∨
          ∃ seen, step.seen.files.metadata path = .ok seen ∧
            t.isCurrent step.forced (.file seen) = false ∧
            ∃ fault, step.later.read path = .error fault
      | .url url => ∃ fault, step.seen.remote.answer url = .error fault := by
  rw [act_eq]
  cases t.source with
  | inline text => simp [Source.view, settle]
  | file path =>
    dsimp only [Source.view]
    cases step.seen.files.metadata path with
    | error fault => simp [settle]
    | ok seen =>
      have hread : (∃ e, (step.later.read path).mapError Error.file = .error e) ↔
          ∃ fault, step.later.read path = .error fault := by
        cases step.later.read path with
        | error fault => exact ⟨fun _ => ⟨fault, rfl⟩, fun _ => ⟨.file fault, rfl⟩⟩
        | ok content => exact ⟨nofun, nofun⟩
      simp only [settle_eq_error_iff, exists_and_left, hread]
      simp
  | url url =>
    dsimp only [Source.view]
    cases step.seen.remote.answer url with
    | error fault => simp [settle]
    | ok body => simp [settle_eq_error_iff]

theorem act_of_error {step : Step} {t : Table} {e : Error} (h : (step.act t).1 = .error e) :
    (step.act t).2 = t := by
  rw [act_eq] at h ⊢
  exact settle_of_error h

-- A file that was replaced by one that cannot be read: the look succeeds, the call fails.
example :
    let call (content : String) (written : Int) (isReadable : Bool) : Step :=
      .amidNothing false 0 ⟨(FileTree.empty 0).put ["ads.txt"]
        (.file ⟨utf8 content, written, isReadable⟩), ⟨true, fun _ _ => none, ∅⟩⟩
    let t := ((call "a.b" 7 true).act (create .domain "ads" (.file "ads.txt"))).2
    let denied := call "c.d e.f" 8 false
    (denied.seen.files.metadata "ads.txt").toOption = some ⟨8, 7⟩ ∧
      (denied.act t).1.toOption = none ∧
      (denied.act t).2.version = some (.file ⟨7, 3⟩) ∧ (denied.act t).2.isMatch "a.b" = true := by
  decide +kernel

end Step

/-! ## Runs without their failures -/

/-- What is seen of a call: what it returned and the table it left. -/
structure Sight where
  result : Except Error Outcome
  table : Table

def Sight.isFailure (sight : Sight) : Bool := !sight.result.isOk

def sight (t : Table) (step : Step) : Sight := ⟨(step.act t).1, (step.act t).2⟩

theorem sight_of_failure {t : Table} {step : Step} (h : (t.sight step).isFailure = true) :
    (t.sight step).table = t := by
  cases hresult : (step.act t).1 with
  | error e => exact Step.act_of_error hresult
  | ok outcome => simp [sight, Sight.isFailure, hresult, Except.isOk, Except.toBool] at h

namespace Run

/-- What is seen of calls made in order. -/
def history (t : Table) : List Step → List Sight
  | [] => []
  | step :: rest => t.sight step :: history (t.sight step).table rest

/-- The calls without those that fail when all of them are made. -/
def withoutFailures (t : Table) : List Step → List Step
  | [] => []
  | step :: rest =>
    if (t.sight step).isFailure then withoutFailures (t.sight step).table rest
    else step :: withoutFailures (t.sight step).table rest

/-- By induction on the calls: after a failed call the run goes on like the run before it. -/
theorem history_withoutFailures (t : Table) (steps : List Step) :
    history t (withoutFailures t steps) =
      (history t steps).filter fun sight => !sight.isFailure := by
  induction steps generalizing t with
  | nil => rfl
  | cons next rest ih =>
    unfold withoutFailures
    split
    · next hfailed =>
      rw [history, sight_of_failure hfailed, ih,
        List.filter_cons_of_neg (by simpa using hfailed)]
    · next hdone =>
      rw [history, history, ih, List.filter_cons_of_pos (by simpa using hdone)]

theorem table_withoutFailures (r r' : Run) (h : r'.table = r.table) (steps : List Step) :
    (r'.take (withoutFailures r.table steps)).table = (r.take steps).table := by
  induction steps generalizing r r' with
  | nil => exact h
  | cons next rest ih =>
    unfold withoutFailures
    split
    · next hfailed => exact ih (r.step next) r' (h.trans (sight_of_failure hfailed).symm)
    · exact ih (r.step next) (r'.step next) (by simp only [step, h])

/-- Deleting the calls that fail from any run of any table leaves every other call with its result
and with the table after it, its rules and all that it remembers of its source.  The table at the
end is the same, and every call that may follow is seen the same; one that fails then leaves the
table as it is. -/
theorem failures_leave_no_trace (t : Table) (steps : List Step) :
    let kept := withoutFailures t steps
    let now := ((Run.start t).take steps).table
    history t kept = (history t steps).filter (fun sight => !sight.isFailure) ∧
      ((Run.start t).take kept).table = now ∧
      (∀ next, ((Run.start t).take kept).table.sight next = now.sight next) ∧
      ∀ next, (now.sight next).isFailure = true → (now.sight next).table = now := by
  intro kept now
  have htable : ((Run.start t).take kept).table = now := table_withoutFailures _ _ rfl steps
  exact ⟨history_withoutFailures t steps, htable, fun next => by rw [htable],
    fun _ => sight_of_failure⟩

end Run

end TagRules.Table
