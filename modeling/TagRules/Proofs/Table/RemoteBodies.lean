import Mathlib.Data.List.Induction
import TagRules.Proofs.Table.Calls

/-
  A table whose rules are at a URL follows the body that is served there.

  The table does not keep the body it was made from, only its digest.  `Tracks` says that
  both belong together: the digest and the rules are those of the body that was served in
  the latest call that succeeded (`lastBody`).  A new table has neither, and every call
  keeps it so (`Tracks.step`), also one that fails and one that finds nothing changed; the
  latter because no two bodies of the run have one digest, which is the only thing that
  is asked of digests.

  `refresh_remote` reads off it what any call after any run returns, and what rules the
  table has then.
-/

namespace TagRules.Table

open Text

/-- The body that a call is served, if it is served one. -/
def Call.body? (url : String) (call : Call) : Option Bytes :=
  (call.seen.remote.answer url).toOption

/-- The bodies that calls were served. -/
def bodies (url : String) (calls : List Call) : List Bytes := calls.filterMap (Call.body? url)

/-- The body served in the latest call that succeeded. -/
def lastBody (url : String) (calls : List Call) : Option Bytes :=
  (calls.reverse.find? fun call => call.result.isOk).bind (Call.body? url)

/-- No two of some bodies have the same digest. -/
def DigestsDiffer (bodies : List Bytes) : Prop :=
  ∀ x ∈ bodies, ∀ y ∈ bodies, sha256 x = sha256 y → x = y

theorem lastBody_append (url : String) (calls : List Call) (call : Call) :
    lastBody url (calls ++ [call]) =
      if call.result.isOk then call.body? url else lastBody url calls := by
  unfold lastBody
  rw [List.reverse_append, List.reverse_singleton, List.singleton_append, List.find?_cons]
  cases call.result.isOk <;> rfl

theorem lastBody_mem {url : String} {calls : List Call} {body : Bytes}
    (h : lastBody url calls = some body) : body ∈ bodies url calls := by
  obtain ⟨call, hfind, hbody⟩ := Option.bind_eq_some_iff.mp h
  exact List.mem_filterMap.mpr ⟨call, List.mem_reverse.mp (List.mem_of_find?_eq_some hfind), hbody⟩

theorem DigestsDiffer.of_append {url : String} {calls later : List Call}
    (h : DigestsDiffer (bodies url (calls ++ later))) : DigestsDiffer (bodies url calls) := by
  intro x hx y hy
  have hsub : bodies url calls ⊆ bodies url (calls ++ later) := by
    unfold bodies
    rw [List.filterMap_append]
    exact List.subset_append_left _ _
  exact h x (hsub hx) y (hsub hy)

/-! ## One call -/

/-- The rules and the digest of a table are those of the body of the latest call that succeeded. -/
structure Tracks (kind : TableKind) (tag url : String) (r : Run) : Prop where
  kind_eq : r.table.kind = kind
  tag_eq : r.table.tag = Tag.normalize tag
  source_eq : r.table.source = .url url
  version_eq : r.table.version = (lastBody url r.calls).map fun body => .body (sha256 body)
  rules_eq : ∀ body, lastBody url r.calls = some body →
    r.table.rules = (RuleSet.ofBytes kind (Tag.normalize tag) body).1

theorem tracks_start (kind : TableKind) (tag url : String) :
    Tracks kind tag url (.start (create kind tag (.url url))) :=
  ⟨rfl, rfl, rfl, rfl, fun _ h => nomatch h⟩

/-- The table made from a body. -/
def madeFrom (t : Table) (body : Bytes) : Table :=
  { t with
    rules := (RuleSet.ofBytes t.kind t.tag body).1
    version := some (.body (sha256 body)) }

/-- What a call returns that is served a body, given the body that was last served. -/
def outcomeOf (t : Table) (forced : Bool) (last : Option Bytes) (body : Bytes) : Outcome :=
  if forced = false ∧ last = some body then .unchanged
  else .reloaded (t.madeFrom body).size (RuleSet.ofBytes t.kind t.tag body).2

namespace Tracks

variable {kind : TableKind} {tag url : String} {r : Run} {next : Step}

/-- The digest is that of a body only if it is the body last served. -/
theorem version_eq_iff (h : Tracks kind tag url r) {body : Bytes}
    (hd : ∀ last ∈ bodies url r.calls, sha256 last = sha256 body → last = body) :
    r.table.version = some (.body (sha256 body)) ↔ lastBody url r.calls = some body := by
  rw [h.version_eq]
  cases hlast : lastBody url r.calls with
  | none => simp
  | some last =>
    simp only [Option.map_some, Option.some.injEq, Source.Version.body.injEq]
    exact ⟨hd last (lastBody_mem hlast), congrArg sha256⟩

/-- Whether anything changed or not, the table is afterwards the one made from the body served. -/
theorem settle (h : Tracks kind tag url r) (forced : Bool) {body : Bytes}
    (hd : ∀ last ∈ bodies url r.calls, sha256 last = sha256 body → last = body) :
    r.table.settle forced (.ok (some (.body (sha256 body), .ok body))) =
      (.ok (r.table.outcomeOf forced (lastBody url r.calls) body), r.table.madeFrom body) := by
  have hiff := h.version_eq_iff hd
  unfold Table.settle isCurrent outcomeOf
  by_cases hsame : forced = false ∧ lastBody url r.calls = some body
  · obtain ⟨rfl, hlast⟩ := hsame
    have hversion := hiff.mpr hlast
    have hmade : r.table.madeFrom body = r.table := by
      unfold madeFrom
      rw [h.kind_eq, h.tag_eq, ← h.rules_eq body hlast, ← hversion, ← h.kind_eq, ← h.tag_eq]
    simp [hversion, hlast, hmade]
  · have hne : (!forced && r.table.version == some (.body (sha256 body))) = false := by
      rw [Bool.eq_false_iff]
      intro hboth
      rw [Bool.and_eq_true, beq_iff_eq, Bool.not_eq_true', hiff] at hboth
      exact hsame hboth
    simp only [hne, if_neg hsame]
    rfl

theorem act_served (h : Tracks kind tag url r) {body : Bytes}
    (hd : DigestsDiffer (bodies url (r.step next).calls))
    (hbody : next.seen.remote.answer url = .ok body) :
    next.act r.table =
      (.ok (r.table.outcomeOf next.forced (lastBody url r.calls) body),
        r.table.madeFrom body) := by
  have hdigests : ∀ last ∈ bodies url r.calls, sha256 last = sha256 body → last = body := by
    intro last hlast
    have hall : bodies url (r.step next).calls = bodies url r.calls ++ [body] := by
      simp [Run.step, Step.call, bodies, Call.body?, hbody, Except.toOption]
    rw [hall] at hd
    exact hd last (List.mem_append_left _ hlast) body (by simp)
  rw [Step.act_eq, h.source_eq]
  dsimp only [Source.view]
  rw [hbody]
  exact h.settle next.forced hdigests

theorem lastBody_served (h : Tracks kind tag url r) {body : Bytes}
    (hd : DigestsDiffer (bodies url (r.step next).calls))
    (hbody : next.seen.remote.answer url = .ok body) :
    lastBody url (r.step next).calls = some body := by
  unfold Run.step Step.call
  rw [lastBody_append, h.act_served hd hbody, Call.body?, hbody]
  rfl

theorem act_unserved (h : Tracks kind tag url r) {fault : FetchFault}
    (hfault : next.seen.remote.answer url = .error fault) :
    next.act r.table = (.error (.fetch url fault), r.table) := by
  rw [Step.act_eq, h.source_eq]
  dsimp only [Source.view]
  rw [hfault]
  rfl

theorem step (h : Tracks kind tag url r) (next : Step)
    (hd : DigestsDiffer (bodies url (r.step next).calls)) : Tracks kind tag url (r.step next) := by
  have htable : (r.step next).table = (next.act r.table).2 := rfl
  -- A call that fails serves no body and leaves the table; any other makes it anew from the body.
  cases hanswer : next.seen.remote.answer url with
  | error fault =>
    have hact := h.act_unserved hanswer
    have hlast : lastBody url (r.step next).calls = lastBody url r.calls := by
      unfold Run.step Step.call
      rw [lastBody_append, hact]
      rfl
    rw [hact] at htable
    constructor
    · rw [htable, h.kind_eq]
    · rw [htable, h.tag_eq]
    · rw [htable, h.source_eq]
    · rw [htable, hlast, h.version_eq]
    · rw [htable, hlast]
      exact h.rules_eq
  | ok body =>
    have hlast := h.lastBody_served hd hanswer
    rw [h.act_served hd hanswer] at htable
    constructor
    · rw [htable]
      exact h.kind_eq
    · rw [htable]
      exact h.tag_eq
    · rw [htable]
      exact h.source_eq
    · rw [htable, hlast]
      rfl
    · intro last hsame
      rw [hlast] at hsame
      rw [htable, ← Option.some.inj hsame, ← h.kind_eq, ← h.tag_eq]
      rfl

end Tracks

theorem tracks_take (kind : TableKind) (tag url : String) (steps : List Step)
    (hd : DigestsDiffer (bodies url ((Run.start (create kind tag (.url url))).take steps).calls)) :
    Tracks kind tag url ((Run.start (create kind tag (.url url))).take steps) := by
  induction steps using List.reverseRecOn with
  | nil => exact tracks_start kind tag url
  | append_singleton steps next ih =>
    rw [Run.take_append] at hd ⊢
    exact (ih hd.of_append).step next hd

/-- After any calls, a call of a table at a URL fails if the URL gives no body.  Otherwise the table
has the rules of the body served, and the call returns that nothing changed exactly if it was not
forced and this is the body that the latest call to succeed was served; if not, it returns how
many rules there are and how many lines were skipped. -/
theorem refresh_remote (kind : TableKind) (tag url : String) (steps : List Step) (next : Step)
    (hd : DigestsDiffer
      (bodies url (((Run.start (create kind tag (.url url))).take steps).step next).calls)) :
    let r := (Run.start (create kind tag (.url url))).take steps
    let (result, t) := next.act r.table
    match next.seen.remote.answer url with
    | .error fault => result = .error (.fetch url fault)
    | .ok body =>
      let (rules, skipped) := RuleSet.ofLines kind (Tag.normalize tag) (lines (ofUtf8Lossy body))
      t.rules = rules ∧
        result = .ok (if next.forced = false ∧ lastBody url r.calls = some body then .unchanged
          else .reloaded rules.size skipped) := by
  have h : Tracks kind tag url ((Run.start (create kind tag (.url url))).take steps) :=
    tracks_take kind tag url steps hd.of_append
  generalize (Run.start (create kind tag (.url url))).take steps = r at h hd
  simp only
  split
  · next fault hfault => rw [h.act_unserved hfault]
  · next body hbody =>
    rw [h.act_served hd hbody]
    dsimp only [outcomeOf]
    rw [← h.kind_eq, ← h.tag_eq]
    exact ⟨rfl, rfl⟩

/-- A call when a URL has a body and there is nothing else. -/
def calling (forced : Bool) (url : String) (body : Bytes) : Step :=
  .amidNothing forced 30 ⟨.empty 0, (Remote.empty true).setBody url body⟩

theorem answer_calling (forced : Bool) (url : String) (body : Bytes) :
    (calling forced url body).seen.remote.answer url = .ok body :=
  Remote.answer_setBody_empty url body

/-- A body that is replaced by another one and comes back is taken again. -/
theorem refresh_remote_back :
    let url := "http://lists/ads"
    let steps : List Step := [calling true url [0x61], calling false url [0x62]]
    let next := calling false url [0x61]
    let r := (Run.start (create .keyword "ads" (.url url))).take steps
    DigestsDiffer (bodies url (r.step next).calls) ∧
      ∃ entries skipped, (next.act r.table).1 = .ok (.reloaded entries skipped) := by
  intro url steps next r
  have hbodies : bodies url (r.step next).calls = [[0x61], [0x62], [0x61]] := by
    simp [r, steps, next, Run.start, Run.take, Run.step, Step.call, bodies, Call.body?,
      answer_calling, Except.toOption]
  have hd : DigestsDiffer (bodies url (r.step next).calls) := by
    rw [hbodies]
    unfold DigestsDiffer
    decide +kernel
  refine ⟨hd, ?_⟩
  have hlast : lastBody url r.calls = some [0x62] :=
    (tracks_take .keyword "ads" url [calling true url [0x61]]
      hd.of_append.of_append).lastBody_served hd.of_append (answer_calling false url [0x62])
  have hserved : next.seen.remote.answer url = .ok [0x61] := answer_calling false url [0x61]
  have hchanged : ¬(next.forced = false ∧ lastBody url r.calls = some [0x61]) := by
    rw [hlast]
    decide
  -- The calls themselves need not be looked at again.
  clear_value steps next
  have hcall := refresh_remote .keyword "ads" url steps next hd
  simp only [r] at hcall hchanged
  simp only [hserved, if_neg hchanged] at hcall
  exact ⟨_, _, hcall.2⟩

end TagRules.Table
