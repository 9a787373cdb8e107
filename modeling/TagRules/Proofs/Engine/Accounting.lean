import TagRules.Proofs.Engine.Charges
import TagRules.Proofs.Engine.Operations
import TagRules.Proofs.Rules.ClientSpellings

/-
  The accounts of an engine.

  A question does to the second set of counters what it does to the first (`Charged`), and no
  other operation adds to one of them only.  So a second set that begins like the first stays
  like it until one of them is reset or replaced (`Mirrors.take`).

  A question is idle if there is nothing for its tag, or if its text is no network.  An engine
  that began empty or from options answers it no.  Nothing that there is for a tag is ever taken
  away (`Grows.step`), so the memory has no rows for a tag that there is nothing for
  (`hit?_of_unknown`); and clients are bound under texts that are networks
  (`resolveIn_of_unread`).
-/

namespace TagRules

open Net

namespace Engine

/-! ## What there is for a tag -/

/-- Whether there is a table or a geographic set for a tag in canonical form. -/
def knows (e : Engine) (code : String) : ListTarget → Bool
  | .table kind => (e.tables.get? kind code).isSome
  | .geo .ip => (e.geoIp.get? code).isSome
  | .geo .site => (e.geoSite.get? code).isSome

/-- Whatever there was for a tag, there still is something. -/
def Grows (e e' : Engine) : Prop :=
  ∀ code target, e.knows code target = true → e'.knows code target = true

namespace Grows

variable {e e' e'' : Engine}

theorem refl (e : Engine) : Grows e e := fun _ _ h => h

theorem trans (h : Grows e e') (h' : Grows e' e'') : Grows e e'' :=
  fun code target hknows => h' code target (h code target hknows)

theorem of_sameRules (h : SameRules e e') : Grows e e' := by
  obtain ⟨_, _, _, rfl⟩ := h
  intro code target hknows
  rcases target with kind | (_ | _) <;> exact hknows

theorem insert (e : Engine) (kind : TableKind) (t : Table) :
    Grows e { e with tables := e.tables.insert kind t } := by
  intro code target hknows
  rcases target with k | kind
  · show ((e.tables.insert kind t).get? k code).isSome = true
    rw [TableIndexes.get?_insert]
    split
    · rfl
    · exact hknows
  · cases kind <;> exact hknows

theorem addTags (e : Engine) (d : Declaration) (s : Surroundings) (tags : List String) :
    Grows e (e.addTags d.kind d.source s tags).2.1 := by
  induction tags generalizing e s with
  | nil => exact refl e
  | cons tag rest ih =>
    rw [addTags_cons]
    exact (insert e d.kind _).trans (ih _ _)

theorem callTable (e : Engine) (kind : TableKind) (tag : String) (forced : Bool)
    (s : Surroundings) : Grows e (e.callTable kind tag forced s).1 := by
  unfold Engine.callTable
  cases e.table? kind tag with
  | none => exact refl e
  | some t => exact insert e kind _

theorem reloadEach (e : Engine) (s : Surroundings) (tally : ReloadTally)
    (work : List (TableKind × Table)) : Grows e (e.reloadEach s tally work).2.1 := by
  induction work generalizing e s tally with
  | nil => exact refl e
  | cons p rest ih => exact (insert e p.1 _).trans (ih _ _ _)

theorem rebuildNetworks (e : Engine) (files : FileTree) :
    Grows e (e.rebuildNetworks files).2 := by
  intro code target hknows
  rcases target with kind | (_ | _)
  · rw [rebuildNetworks_frame]
    exact hknows
  · show ((e.rebuildNetworks files).2.geoIp.get? code).isSome = true
    rw [rebuildNetworks_get?, Option.isSome_or, Bool.or_eq_true]
    exact .inr hknows
  · rw [rebuildNetworks_frame]
    exact hknows

theorem rebuildSites (e : Engine) (files : FileTree) : Grows e (e.rebuildSites files).2 := by
  unfold Engine.rebuildSites
  cases e.catalog.domainsFor files e.geoSiteTags with
  | error fault => exact refl e
  | ok domains =>
    intro code target hknows
    rcases target with kind | (_ | _)
    · exact hknows
    · exact hknows
    · show ((e.geoSite.replace _).1.get? code).isSome = true
      rw [CodedSets.get?_replace, Option.isSome_or, Bool.or_eq_true]
      exact .inr hknows

theorem rebuildGeo (e : Engine) (force : Bool) (s : Surroundings) :
    Grows e (e.rebuildGeo force s).2.1 := by
  rw [rebuildGeo_engine]
  dsimp only
  have hnetworks : Grows e
      (e.rebuildWanted e.geoIpTags Engine.rebuildNetworks (e.refreshGeo force s).files).2 := by
    rw [rebuildWanted_networks]
    split
    · exact refl e
    · exact rebuildNetworks e _
  refine hnetworks.trans ?_
  rw [rebuildWanted_sites]
  split
  · exact refl _
  · exact rebuildSites _ _

theorem step (c : Course) (op : Operation) : Grows c.engine (c.step op).engine := by
  cases op with
  | outside s => exact refl _
  | set setting =>
    intro code target hknows
    cases setting <;> rcases target with kind | (_ | _) <;> exact hknows
  | declare d => exact addTags _ _ _ _
  | put kind tag source steps => exact insert _ _ _
  | call kind tag forced => exact callTable _ _ _ _ _
  | reloadTables request => exact reloadEach _ _ _ _
  | rebuildNetworks => exact rebuildNetworks _ _
  | rebuildSites => exact rebuildSites _ _
  | rebuildGeo force => exact rebuildGeo _ _ _
  | ask q => exact of_sameRules (.afterQuery c.engine q)
  | countMetric name => exact of_sameRules (.count c.engine _ _)
  | resetCounters cls => exact of_sameRules ⟨_, _, _, rfl⟩
  | clearCache => exact of_sameRules ⟨_, _, _, rfl⟩

theorem take (c : Course) (ops : List Operation) : Grows c.engine (c.take ops).engine := by
  induction ops generalizing c with
  | nil => exact refl _
  | cons op rest ih => exact (step c op).trans (ih (c.step op))

end Grows

/-! ## Idle questions -/

/-- Where a name is looked for under a tag. -/
def Query.nameTargets : List ListTarget := [.table .domain, .table .keyword, .geo .site]

/-- Where a question looks for an answer under a tag. -/
def Query.targets : Query → List ListTarget
  | .geoNetwork .. | .geoAddress .. => [.geo .ip]
  | .tableNet .. | .tableNetText .. => [.table .network]
  | .net .. | .netText .. => [.table .network, .geo .ip]
  | .site .. => [.geo .site]
  | .keyword .. => [.table .keyword]
  | .client .. => [.table .client]
  | .name .. | .tags .. => nameTargets

/-- The text of a question that is about the network a text names. -/
def Query.netText? : Query → Option String
  | .tableNetText _ text | .netText _ text | .client _ text => some text
  | _ => none

/-- There is nothing for the tag of a question where it looks, or its text names no network. -/
inductive Query.Idle (e : Engine) (q : Query) : Prop where
  | unknown {tag : String} (htag : q.tag? = some tag)
      (h : ∀ target ∈ q.targets, e.knows (Tag.normalize tag) target = false)
  | unread {text : String} (htext : q.netText? = some text)
      (h : Network.ofRule? text.toList = none)

theorem Query.Idle.exists_tag {e : Engine} {q : Query} (h : q.Idle e) :
    ∃ tag, q.tag? = some tag := by
  cases h with
  | unknown htag => exact ⟨_, htag⟩
  | unread htext =>
    cases q with
    | tags now tags name reverse => cases htext
    | _ => exact ⟨_, rfl⟩

theorem firstHit?_of_unknown {e : Engine} {code : String} (name : String)
    (h : ∀ target ∈ Query.nameTargets, e.knows code target = false) :
    e.firstHit? code name = none := by
  simp only [Query.nameTargets, List.mem_cons, List.not_mem_nil, or_false, forall_eq_or_imp,
    forall_eq, knows, Option.isSome_eq_false_iff, Option.isNone_iff_eq_none] at h
  simp [firstHit?, contest, h]

/-- Nothing is remembered for a tag that there is nothing for: what was found in the rules at some
time is still there. -/
theorem hit?_of_unknown {s : Surroundings} {ops : List Operation} {code : String}
    (h : ∀ target ∈ Query.nameTargets,
      ((Course.start s).take ops).engine.knows code target = false) (now : Nat) (name : String) :
    ((Course.start s).take ops).engine.hit? now code name = none := by
  refine Option.or_eq_none_iff.mpr ⟨?_, firstHit?_of_unknown name h⟩
  by_contra hsome
  obtain ⟨cls, hget⟩ := Option.ne_none_iff_exists'.mp hsome
  obtain ⟨row, hrow, rfl, rfl, -⟩ := RecentMatches.exists_row_of_get hget
  obtain ⟨before, q, after, rfl, -, hhit, -⟩ := Course.recalls_take rfl ops row hrow
  have hgrows := Grows.take ((Course.start s).take before) (.ask q :: after)
  rw [Course.take, Course.take, ← List.foldl_append] at hgrows
  have hbefore := firstHit?_of_unknown (e := ((Course.start s).take before).engine) row.name
    fun target htarget => Bool.eq_false_iff.mpr fun hknows =>
      Bool.eq_false_iff.mp (h target htarget) (hgrows row.tag target hknows)
  rw [hbefore] at hhit
  cases hhit

theorem resolveIn_of_unread {c : Course} (hc : c.Agrees) {code client : String} {t : Table}
    (ht : c.engine.tables.get? .client code = some t)
    (h : Network.ofRule? client.toList = none) : resolveIn t.rules client = none := by
  have hrules := hc.tables.current .client code t ht
  rw [Table.IsCurrent, (hc.tables.filed .client code t ht).1] at hrules
  obtain ⟨b, steps, skipped, hlines, hb, -, hwritten⟩ :=
    RuleSet.ofLines_client t.tag (t.currentLines (c.history.calls .client code))
  rw [hrules, hlines]
  exact hb.resolve_eq_none hwritten h

theorem charge?_of_idle (s : Surroundings) (ops : List Operation) {q : Query}
    (h : q.Idle ((Course.start s).take ops).engine) :
    ((Course.start s).take ops).engine.charge? q = none := by
  have hagrees := Course.agrees_take s ops
  cases h with
  | unknown htag h =>
    cases q with
    | tags now tags name reverse => cases htag
    | name now tag name =>
      obtain rfl := Option.some.inj htag
      rw [charge?, hit?_of_unknown h]
      rfl
    | _ =>
      obtain rfl := Option.some.inj htag
      simp only [Query.targets, List.mem_cons, List.not_mem_nil, or_false, forall_eq_or_imp,
        forall_eq, knows, Option.isSome_eq_false_iff, Option.isNone_iff_eq_none] at h
      simp [charge?, chargeIf, geoCovers, tableCovers, table?, h]
  | unread htext h =>
    cases q with
    | tableNetText tag text =>
      obtain rfl := Option.some.inj htext
      rw [charge?, h]
      rfl
    | netText tag text =>
      obtain rfl := Option.some.inj htext
      rw [charge?, h]
      rfl
    | client tag client =>
      obtain rfl := Option.some.inj htext
      rw [charge?]
      cases ht : ((Course.start s).take ops).engine.table? .client tag with
      | none => rfl
      | some t =>
        rw [Option.bind_some, resolveIn_of_unread hagrees ht h]
        rfl
    | _ => cases htext

/-! ## The second set of counters -/

/-- An operation resets a class of counters, or sets the second set of them. -/
inductive Operation.Recounts : Operation → Prop where
  | reset (cls : CountClass) : Recounts (.resetCounters cls)
  | sink (counters : Counters) : Recounts (.set (.sink counters))

/-- The second set of counters is like the first. -/
def Mirrors (e : Engine) : Prop := e.sink = some e.counters

namespace Mirrors

theorem charged {e e' : Engine} (h : e.Mirrors) {charges : List (CountClass × String)}
    (hcharged : Charged e e' charges) : e'.Mirrors := by
  rw [Mirrors, hcharged.sink, h, hcharged.counters]
  rfl

theorem step {c : Course} (h : c.engine.Mirrors) {op : Operation} (hop : ¬op.Recounts) :
    (c.step op).engine.Mirrors := by
  by_cases hloading : op.IsLoading
  · rw [c.step_frame hloading]
    exact h
  · -- Only questions and metrics count at all, and the two sets are charged the same.
    cases op with
    | outside | declare | put | call => exact absurd trivial hloading
    | reloadTables | rebuildNetworks | rebuildSites | rebuildGeo => exact absurd trivial hloading
    | set setting =>
      cases setting with
      | sink counters => exact absurd (.sink counters) hop
      | catalog | refresher | cache | timeout | geoCodes => exact h
    | ask q => exact h.charged (.afterQuery c.engine q)
    | countMetric name => exact h.charged (.count c.engine .metrics name)
    | resetCounters cls => exact absurd (.reset cls) hop
    | clearCache => exact h

theorem take {c : Course} (h : c.engine.Mirrors) {ops : List Operation}
    (hops : ∀ op ∈ ops, ¬op.Recounts) : (c.take ops).engine.Mirrors := by
  induction ops generalizing c with
  | nil => exact h
  | cons op rest ih =>
    obtain ⟨hop, hrest⟩ := List.forall_mem_cons.mp hops
    exact ih (h.step hop) hrest

end Mirrors

/-! ## Engines that have counted nothing -/

theorem counters_declareAll (e : Engine) (s : Surroundings) (ds : List Declaration) :
    (e.declareAll s ds).1.counters = e.counters := by
  induction ds generalizing e s with
  | nil => rfl
  | cons d rest ih => rw [declareAll, ih, declare_frame]

theorem counters_declareOptions {o : Options} {e e' : Engine} {s s' : Surroundings}
    (h : e.declareOptions o s = (.ok e', s')) : e'.counters = e.counters := by
  unfold declareOptions at h
  dsimp only at h
  split at h
  · obtain ⟨he, -⟩ := Prod.mk.inj h
    obtain rfl := Except.ok.inj he
    exact counters_declareAll ..
  · split at h
    · cases h
    · obtain ⟨he, -⟩ := Prod.mk.inj h
      obtain rfl := Except.ok.inj he
      rw [counters_declareAll, counters_declareAll]

theorem counters_rebuildAll {e e' : Engine} {files : FileTree}
    (h : e.rebuildAll files = (.ok (), e')) : e'.counters = e.counters := by
  have hnetworks := e.wantedNetworks_frame files
  unfold rebuildAll at h
  split at h
  · cases h
  · next between heq =>
    have hsites := between.wantedSites_frame files
    rw [h] at hsites
    rw [heq] at hnetworks
    rw [show e' = _ from hsites, show between = _ from hnetworks]

theorem Begun.counters_eq {e : Engine} {s : Surroundings} (h : Begun e s) :
    e.counters = .empty := by
  cases h with
  | empty => rfl
  | options h =>
    unfold ofOptions at h
    split at h
    · cases h
    · next blank hblank =>
      dsimp only at h
      split at h
      · cases h
      · next built hbuilt =>
        obtain ⟨_, -, hrest⟩ := bind_eq_ok.mp hblank
        obtain ⟨refresher, -, hblank⟩ := bind_eq_ok.mp hrest
        obtain rfl := Except.ok.inj hblank
        rw [counters_declareOptions h, counters_rebuildAll hbuilt]
        rfl

/-! ## All questions -/

/-- A question about one tag is answered yes exactly if it is charged.  Then it adds one to the
counter that it is charged to and leaves every other as it is, and otherwise it changes nothing in
either set of counters.  That goes for every engine.  After any operations on an engine that was
begun empty or from options, a question is answered no and counts nothing if there is nothing for
its tag where it looks, or if its text names no network.  A second set of counters that was empty
when the engine was new has the value of every counter of the first, unless one of them was reset
or the second was replaced. -/
theorem questions_counted :
    (∀ (e : Engine) (q : Query) (tag : String), q.tag? = some tag →
      (e.answer q).isYes = (e.charge? q).isSome ∧
      (∀ k other, (e.afterQuery q).counters.value k other =
        e.counters.value k other + if e.charge? q = some (k, other) then 1 else 0) ∧
      ((e.answer q).isYes = false →
        (e.afterQuery q).counters = e.counters ∧ (e.afterQuery q).sink = e.sink)) ∧
    ∀ (e : Engine) (s : Surroundings), Begun e s → ∀ (past : History) (ops : List Operation),
      (let after := ((Course.mk e s past).take ops).engine
        ∀ q, q.Idle after → (after.answer q).isYes = false ∧
          (after.afterQuery q).counters = after.counters ∧
          (after.afterQuery q).sink = after.sink) ∧
      ((∀ op ∈ ops, ¬op.Recounts) →
        let after := ((Course.mk (e.set (.sink .empty)) s past).take ops).engine
        ∃ second, after.sink = some second ∧
          ∀ k name, second.value k name = after.counters.value k name) := by
  refine ⟨fun e q tag htag => ⟨e.isYes_answer htag, ?_, ?_⟩, fun e s h past ops => ⟨?_, ?_⟩⟩
  · intro k other
    rw [(Charged.of_tag e htag).counters, Counters.value_charged_toList]
  · intro hno
    rw [e.isYes_answer htag, Option.isSome_eq_false_iff, Option.isNone_iff_eq_none] at hno
    exact Charged.unchanged htag hno
  · intro after q hidle
    obtain ⟨s₀, before, he, hs⟩ := h.reached
    have hafter : after = ((Course.start s₀).take (before ++ ops)).engine := by
      rw [Course.take, List.foldl_append]
      exact (Course.take_congr (c := ⟨e, s, past⟩) he.symm hs.symm ops).1
    obtain ⟨tag, htag⟩ := hidle.exists_tag
    rw [hafter] at hidle ⊢
    have hcharge := charge?_of_idle s₀ (before ++ ops) hidle
    refine ⟨?_, Charged.unchanged htag hcharge⟩
    rw [isYes_answer _ htag, hcharge]
    rfl
  · intro hops after
    have hbegun : (e.set (.sink .empty)).Mirrors := congrArg some h.counters_eq.symm
    have hafter : after.Mirrors := Mirrors.take (c := ⟨_, s, past⟩) hbegun hops
    exact ⟨after.counters, hafter, fun _ _ => rfl⟩

/-- A name that is found among the keywords, and then in the memory, and a client under a tag
that there is nothing for. -/
theorem questions_counted_twice :
    let o := { Options.standard with tables := [⟨.keyword, ["ads"], "ADS banner"⟩] }
    let s : Surroundings := ⟨.empty 0, .empty true⟩
    let q : Query := .name 1 " Ads" "banner.example"
    let lost : Query := .client "cn" "10.0.0.1"
    ∃ e s', ofOptions o s = (.ok e, s') ∧
      let after := ((Course.mk (e.set (.sink .empty)) s' .empty).take [.ask q]).engine
      (after.answer q).isYes = true ∧
      (after.afterQuery q).counters.value .keyword "ADS" = 1 + 1 ∧
      (∃ second, after.sink = some second ∧ second.value .keyword "ADS" = 1) ∧
      (e.answer lost).isYes = false ∧ (e.afterQuery lost).counters = e.counters := by
  intro o s q lost
  let e := (ofOptions o s).1.toOption.getD .empty
  have he : ofOptions o s = (.ok e, (ofOptions o s).2) := rfl
  refine ⟨e, (ofOptions o s).2, he, ?_⟩
  intro after
  obtain ⟨hone, hbegun⟩ := questions_counted
  have hcharge : after.charge? q = some (.keyword, "ADS") := by decide +kernel
  have hvalue : after.counters.value .keyword "ADS" = 1 := by decide +kernel
  obtain ⟨hyes, hcounted, -⟩ := hone after q " Ads" rfl
  obtain ⟨-, hmirrors⟩ := hbegun e _ (.options he) .empty [.ask q]
  obtain ⟨second, hsecond, hsame⟩ := hmirrors (List.forall_mem_singleton.mpr nofun)
  have hlost : lost.Idle e := .unknown (show lost.tag? = some "cn" from rfl) (by decide +kernel)
  obtain ⟨hanswer, hcounters, -⟩ := (hbegun e _ (.options he) .empty []).1 lost hlost
  refine ⟨by rw [hyes, hcharge]; rfl, ?_, ⟨second, hsecond, (hsame ..).trans hvalue⟩, hanswer,
    hcounters⟩
  rw [hcounted, hcharge, hvalue, if_pos rfl]

end Engine

end TagRules
