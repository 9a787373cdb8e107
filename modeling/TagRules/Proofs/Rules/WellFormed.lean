import TagRules.Proofs.Rules.CanonicalForm
import TagRules.Proofs.Rules.ClientBindings
import TagRules.Proofs.Rules.Union

/-
  Rules that can be searched.

  Searching assumes that networks were sorted, and resolving a client that the networks
  bound and the map of targets were kept in step.  `NetworkRules.Ordered` and
  `ClientBindings.Complete` say so, and `RuleSet.WellFormed` says it of a set of any kind.
  The set of some lines is well formed, whatever the lines are (`RuleSet.ofLines_wellFormed`),
  because it is sorted or finished last.

  A search that insists on sorted networks is written `checkedFind?`, and what a set answers
  with such searches `checkedMatch` and `checkedCovers`.  They may give no answer at all.  Those
  of a well-formed set give the answer that is given without looking.
-/

namespace TagRules

open Net Text

namespace NetworkRules

/-! ## Networks in order -/

/-- Networks known to be sorted, in strict order and without an address in common. -/
structure Ordered (rules : NetworkRules) : Prop where
  sorted : rules.isSorted = true
  increasing : rules.toList.Pairwise fun a b => a.order b = .lt
  disjoint : rules.toList.Pairwise Network.IsDisjoint

theorem ordered_sort {rules : NetworkRules}
    (h : rules.isSorted = true → Arranged rules.toList) : rules.sort.1.Ordered where
  sorted := isSorted_sort rules
  increasing := (sort_arranged h).increasing
  disjoint := (sort_arranged h).pairwise_isDisjoint

theorem ordered_ofList (nets : List Network) : (ofList nets).Ordered := by
  apply ordered_sort
  intro hsorted
  cases hsorted

/-- The search where it insists on networks that are known to be sorted. -/
def checkedFind? (rules : NetworkRules) (query : Network) : Option (Option Network) :=
  if rules.isSorted then some (rules.find? query) else none

def checkedCovers (rules : NetworkRules) (query : Network) : Option Bool :=
  (rules.checkedFind? query).map Option.isSome

namespace Ordered

variable {rules : NetworkRules}

theorem checkedFind? (h : rules.Ordered) (query : Network) :
    rules.checkedFind? query = some (rules.find? query) := if_pos h.sorted

theorem checkedCovers (h : rules.Ordered) (query : Network) :
    rules.checkedCovers query = some (rules.covers query) := by
  unfold NetworkRules.checkedCovers
  rw [h.checkedFind?]
  rfl

end Ordered

end NetworkRules

namespace ClientBindings

/-! ## Bindings in step -/

/-- The networks bound are in order, each has a target, and no other name with a slash has one. -/
structure Complete (b : ClientBindings) : Prop where
  ranges : b.ranges.Ordered
  keyed : ∀ n ∈ b.ranges.toList, toString n ∈ b.targets
  slashed : ∀ key ∈ b.targets, '/' ∈ key.toList → ∃ n ∈ b.ranges.toList, toString n = key

namespace Follows

variable {steps : List Step} {b : ClientBindings}

theorem mem_targets (h : Follows steps b) {n : Network} (hn : n ∈ b.ranges.toList) :
    toString n ∈ b.targets := by
  obtain ⟨m, hm, rfl⟩ := h.represents.given n hn
  obtain ⟨target, htarget⟩ := exists_lastTarget hm
  rw [Std.ExtTreeMap.mem_iff_isSome_getElem?, h.ranges _ hn, htarget]
  rfl

theorem mem_targets_iff (h : Follows steps b) {key : String} (hkey : '/' ∈ key.toList) :
    key ∈ b.targets ↔ ∃ n ∈ b.ranges.toList, toString n = key := by
  constructor
  · intro hmem
    by_contra hno
    rw [Std.ExtTreeMap.mem_iff_isSome_getElem?,
      h.others key hkey fun n hn heq => hno ⟨n, hn, heq⟩] at hmem
    cases hmem
  · rintro ⟨n, hn, rfl⟩
    exact h.mem_targets hn

end Follows

theorem complete_run_finish (steps : List Step) : (run (steps ++ [.finish])).Complete := by
  have h : Follows (steps ++ [.finish]) (run (steps ++ [.finish])) := follows_run _
  have hordered : (run (steps ++ [.finish])).ranges.Ordered := by
    rw [run_append, Step.apply, ranges_finish]
    exact NetworkRules.ordered_sort (follows_run steps).arranged
  exact ⟨hordered, fun _ => h.mem_targets, fun _ hkey hslash => (h.mem_targets_iff hslash).mp hkey⟩

/-- The steps that bind what a line binds. -/
def lineSteps : Line.Binding → List Step
  | .address client target => [.bindClient (.ofAddress client) target]
  | .ranges nets target => nets.map fun n => .bindRange n target

theorem insert_eq_foldl (b : ClientBindings) (binding : Line.Binding) :
    b.insert binding = (lineSteps binding).foldl Step.apply b := by
  cases binding with
  | address client target => rfl
  | ranges nets target =>
    rw [lineSteps, List.foldl_map]
    rfl

theorem foldl_insert_eq_run (entries : List Line.Binding) :
    entries.foldl insert empty = run (entries.flatMap lineSteps) := by
  unfold run
  rw [List.foldl_flatMap]
  exact congrArg (fun f => entries.foldl f empty) (funext₂ insert_eq_foldl)

/-- Resolving with a search that insists on sorted networks. -/
def checkedResolve (b : ClientBindings) (client : String) : Option (Option Address) :=
  match b.targets[client]? with
  | some a => some (some a)
  | none =>
    match Network.ofRule? client.toList with
    | none => some none
    | some query =>
      match if query.isHost then b.targets[toString query.address]? else none with
      | some a => some (some a)
      | none => (b.ranges.checkedFind? query).map fun range =>
          range.bind fun n => b.targets[toString n]?

namespace Complete

variable {b : ClientBindings}

theorem checkedResolve (h : b.Complete) (client : String) :
    b.checkedResolve client = some (b.resolve client) := by
  unfold ClientBindings.checkedResolve resolve
  cases b.targets[client]? with
  | some a => rfl
  | none =>
    cases Network.ofRule? client.toList with
    | none => rfl
    | some query =>
      simp only [Option.none_or, Option.bind_eq_bind, Option.bind_some, h.ranges.checkedFind?]
      cases if query.isHost = true then b.targets[toString query.address]? else none <;> rfl

theorem resolve_isSome (h : b.Complete) {client : String} {query : Network}
    (hquery : Network.ofRule? client.toList = some query) (hc : b.covers query = true) :
    (b.resolve client).isSome = true := by
  obtain ⟨n, hn⟩ := Option.isSome_iff_exists.mp hc
  -- What a search finds is one of the networks, in whatever order they are.
  have hmem : n ∈ b.ranges.toList := Array.mem_toList_iff.mpr (NetworkRules.mem_of_bisect hn).1
  have htarget : (b.targets[toString n]?).isSome = true :=
    Std.ExtTreeMap.mem_iff_isSome_getElem?.mp (h.keyed n hmem)
  unfold resolve
  simp only [hquery, hn, Option.bind_eq_bind, Option.bind_some, Option.isSome_or, htarget,
    Bool.or_true]

end Complete

end ClientBindings

namespace RuleSet

/-! ## Sets of any kind -/

/-- What a set needs to be searched.  Keywords and domain rules can be in any order. -/
def WellFormed : RuleSet → Prop
  | keyword _ | domain _ => True
  | network rules => rules.Ordered
  | client bindings => bindings.Complete

theorem ofLines_kind (kind : TableKind) (tag : String) (lines : List (List Char)) :
    (ofLines kind tag lines).1.kind = kind := by
  cases kind <;> rfl

/-- The set of some lines is well formed, whatever they say. -/
theorem ofLines_wellFormed (kind : TableKind) (tag : String) (lines : List (List Char)) :
    (ofLines kind tag lines).1.WellFormed := by
  cases kind with
  | keyword => exact trivial
  | domain => exact trivial
  | network => exact NetworkRules.ordered_sort NetworkRules.arranged_foldl
  | client =>
    show (((Line.entries _).foldl ClientBindings.insert ClientBindings.empty).finish.1).Complete
    rw [ClientBindings.foldl_insert_eq_run]
    have h := ClientBindings.complete_run_finish
    simp only [ClientBindings.run_append, ClientBindings.Step.apply] at h
    exact h _

def checkedMatch (set : RuleSet) (name : String) : Option Bool :=
  match set with
  | keyword rules => some (rules.isMatch name)
  | domain rules => some (rules.matchesAny name)
  | network rules =>
    match Network.ofRule? name.toList with
    | none => some false
    | some n => rules.checkedCovers n
  | client bindings => (bindings.checkedResolve name).map Option.isSome

/-- Whether a network of the set covers the network, with such a search. -/
def checkedCovers (set : RuleSet) (n : Network) : Option Bool :=
  match set with
  | keyword _ | domain _ => some false
  | network rules => rules.checkedCovers n
  | client bindings => bindings.ranges.checkedCovers n

namespace WellFormed

variable {set : RuleSet}

theorem checkedMatch (h : set.WellFormed) (name : String) :
    set.checkedMatch name = some (set.isMatch name) := by
  cases set with
  | keyword rules => rfl
  | domain rules => rfl
  | network rules =>
    unfold RuleSet.checkedMatch isMatch
    cases Network.ofRule? name.toList with
    | none => rfl
    | some n => exact NetworkRules.Ordered.checkedCovers h n
  | client bindings =>
    unfold RuleSet.checkedMatch isMatch
    dsimp only
    rw [ClientBindings.Complete.checkedResolve h]
    rfl

theorem checkedCovers (h : set.WellFormed) (n : Network) :
    set.checkedCovers n = some (set.covers n) := by
  cases set with
  | keyword rules => rfl
  | domain rules => rfl
  | network rules => exact NetworkRules.Ordered.checkedCovers h n
  | client bindings => exact (ClientBindings.Complete.ranges h).checkedCovers n

end WellFormed

end RuleSet

end TagRules
