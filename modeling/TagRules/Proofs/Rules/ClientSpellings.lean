import TagRules.Proofs.Rules.WellFormed

/-
  How a client is spelled.

  A client is looked up by its text first, and then by the network that the text names.  The
  bindings of lines have no names but written addresses and written networks
  (`hasWrittenNames_lines`).  A text that is one of these names says of the client what the
  network says (`resolve_eq_resolveNamed`), with one exception: an address that is bound by itself
  and as a network of one address has two names, and only one spelling is the second of them.
  Otherwise the spelling makes no difference (`RuleSet.ofLines_resolve`).
-/

namespace TagRules

open Net Text

namespace ClientBindings

/-- What stands in for a client by the network that it names: what is bound to its address if it
has one only, or to the range it is in. -/
def resolveNamed (b : ClientBindings) (query : Network) : Option Address :=
  (if query.isHost then b.targets[toString query.address]? else none).or
    ((b.ranges.find? query).bind fun n => b.targets[toString n]?)

/-- A network of one address that is bound under its own name, while its address is bound too. -/
structure BoundTwice (b : ClientBindings) (query : Network) : Prop where
  host : query.isHost = true
  address : toString query.address ∈ b.targets
  range : toString query ∈ b.targets

/-- Names without a slash are written addresses. -/
def HasWrittenNames (b : ClientBindings) : Prop :=
  ∀ key ∈ b.targets, '/' ∉ key.toList → ∃ a : Address, toString a = key

/-! ## Names in the bindings of lines -/

theorem exists_address_of_lineSteps {binding : Line.Binding} {client : ClientName}
    {target : Address} (h : .bindClient client target ∈ lineSteps binding) :
    ∃ a, client = .ofAddress a := by
  cases binding with
  | address a t =>
    obtain ⟨rfl, -⟩ := Step.bindClient.inj (List.mem_singleton.mp h)
    exact ⟨a, rfl⟩
  | ranges nets t =>
    obtain ⟨n, -, heq⟩ := List.mem_map.mp h
    cases heq

theorem hasWrittenNames_lines (entries : List Line.Binding) :
    (run (entries.flatMap lineSteps ++ [.finish])).HasWrittenNames := by
  intro key hkey hslash
  rw [Std.ExtTreeMap.mem_iff_isSome_getElem?, (follows_run _).clients key hslash, lastTarget,
    List.findSome?_isSome_iff] at hkey
  obtain ⟨s, hs, htarget⟩ := hkey
  cases s with
  | bindClient client target =>
    rw [List.mem_reverse, List.mem_append, List.mem_singleton] at hs
    rcases hs with hs | hs
    · obtain ⟨binding, -, hmem⟩ := List.mem_flatMap.mp hs
      obtain ⟨a, rfl⟩ := exists_address_of_lineSteps hmem
      refine ⟨a, ?_⟩
      rw [← ClientName.key_ofAddress]
      by_contra hne
      rw [Step.clientTarget?, if_neg hne] at htarget
      cases htarget
    · cases hs
  | bindRange n target => cases htarget
  | finish => cases htarget

/-! ## Resolving a text -/

section

variable {b : ClientBindings} {client : String} {query : Network}

theorem Follows.resolve_eq_none {steps : List Step} (hb : Follows steps b)
    (hwritten : b.HasWrittenNames) (h : Network.ofRule? client.toList = none) :
    b.resolve client = none := by
  have hunbound : client ∉ b.targets := by
    intro hmem
    by_cases hslash : '/' ∈ client.toList
    · obtain ⟨n, -, rfl⟩ := (hb.mem_targets_iff hslash).mp hmem
      rw [show (toString n).toList = n.write from String.toList_ofList, Network.ofRule?_write] at h
      cases h
    · obtain ⟨a, rfl⟩ := hwritten client hmem hslash
      rw [show (toString a).toList = a.write from String.toList_ofList,
        Network.ofRule?_address] at h
      cases h
  unfold resolve
  rw [Std.ExtTreeMap.getElem?_eq_none hunbound, h]
  rfl

theorem resolve_eq (h : Network.ofRule? client.toList = some query) :
    b.resolve client = b.targets[client]?.or (b.resolveNamed query) := by
  unfold resolve
  rw [h]
  rfl

/-- A text without a slash has a target only if it is the address, which is tried again. -/
theorem resolve_of_no_slash (hwritten : b.HasWrittenNames) (hslash : '/' ∉ client.toList)
    (h : Network.ofRule? client.toList = some query) :
    b.resolve client = b.resolveNamed query := by
  rw [resolve_eq h]
  by_cases hmem : client ∈ b.targets
  · obtain ⟨a, rfl⟩ := hwritten client hmem hslash
    have hhost : Network.host a = query := by
      rw [show (toString a).toList = a.write from String.toList_ofList,
        Network.ofRule?_address] at h
      exact Option.some.inj h
    subst hhost
    have hone : (Network.host a).isHost = true := beq_self_eq_true _
    unfold resolveNamed
    rw [if_pos hone, show (Network.host a).address = a from rfl, ← Option.or_assoc, Option.or_self]
  · rw [Std.ExtTreeMap.getElem?_eq_none hmem, Option.none_or]

/-- A text with a slash has a target only if it is the network as it is written. -/
theorem Follows.eq_toString_of_mem {steps : List Step} (hb : Follows steps b)
    (hslash : '/' ∈ client.toList) (h : Network.ofRule? client.toList = some query)
    (hmem : client ∈ b.targets) : client = toString query ∧ query ∈ b.ranges.toList := by
  obtain ⟨n, hn, rfl⟩ := (hb.mem_targets_iff hslash).mp hmem
  rw [show (toString n).toList = n.write from String.toList_ofList, Network.ofRule?_write,
    hb.represents.allTruncated n hn, Option.some.injEq] at h
  exact ⟨by rw [h], h ▸ hn⟩

/-- The name of a network is tried again where the network is found, if its address is not bound. -/
theorem Follows.resolveNamed_of_mem {steps : List Step} (hb : Follows steps b)
    (hs : b.ranges.isSorted = true) (hrange : query ∈ b.ranges.toList)
    (honce : ¬b.BoundTwice query) : b.resolveNamed query = b.targets[toString query]? := by
  have hfind : b.ranges.find? query = some query := NetworkRules.find?_self (hb.arranged hs) hrange
  have hdirect : (if query.isHost then b.targets[toString query.address]? else none) = none := by
    split
    · next hhost =>
      exact Std.ExtTreeMap.getElem?_eq_none fun hmem =>
        honce ⟨hhost, hmem, hb.mem_targets hrange⟩
    · rfl
  unfold resolveNamed
  rw [hdirect, hfind, Option.none_or, Option.bind_some]

/-- What the network says goes for every spelling, except for the written form of a network of one
address that is bound twice. -/
theorem Follows.resolve_eq_resolveNamed {steps : List Step} (hb : Follows steps b)
    (hs : b.ranges.isSorted = true) (hwritten : b.HasWrittenNames)
    (h : Network.ofRule? client.toList = some query)
    (hplain : b.BoundTwice query → client ≠ toString query) :
    b.resolve client = b.resolveNamed query := by
  by_cases hslash : '/' ∈ client.toList
  · rw [resolve_eq h]
    by_cases hmem : client ∈ b.targets
    · obtain ⟨rfl, hrange⟩ := hb.eq_toString_of_mem hslash h hmem
      rw [hb.resolveNamed_of_mem hs hrange fun htwice => hplain htwice rfl, Option.or_self]
    · rw [Std.ExtTreeMap.getElem?_eq_none hmem, Option.none_or]
  · exact resolve_of_no_slash hwritten hslash h

theorem BoundTwice.resolve_range (h : b.BoundTwice query) :
    b.resolve (toString query) = b.targets[toString query]? := by
  unfold ClientBindings.resolve
  exact Option.or_of_isSome (Std.ExtTreeMap.mem_iff_isSome_getElem?.mp h.range)

theorem BoundTwice.resolveNamed (h : b.BoundTwice query) :
    b.resolveNamed query = b.targets[toString query.address]? := by
  unfold ClientBindings.resolveNamed
  rw [if_pos h.host]
  exact Option.or_of_isSome (Std.ExtTreeMap.mem_iff_isSome_getElem?.mp h.address)

end

end ClientBindings

namespace RuleSet

theorem ofLines_client (tag : String) (lines : List (List Char)) :
    ∃ b steps skipped, ofLines .client tag lines = (.client b, skipped) ∧
      ClientBindings.Follows steps b ∧ b.ranges.isSorted = true ∧ b.HasWrittenNames := by
  let entries := Line.entries (Line.readAll (Line.readClient tag) lines)
  let b := ClientBindings.run (entries.flatMap ClientBindings.lineSteps ++ [.finish])
  have hrun : b = (entries.foldl ClientBindings.insert ClientBindings.empty).finish.1 := by
    rw [ClientBindings.foldl_insert_eq_run]
    exact ClientBindings.run_append _ _
  refine ⟨b, _, _, by rw [hrun]; rfl, ClientBindings.follows_run _, ?_, ?_⟩
  · exact (ClientBindings.complete_run_finish _).ranges.sorted
  · exact ClientBindings.hasWrittenNames_lines entries

/-- Whatever the lines of a table are, texts that name the same network are resolved alike, unless
the network has one address and is bound under its own name, and the address is bound too.  Then
the written form of the network has the target of the network, and every other text that of the
address. -/
theorem ofLines_resolve (tag : String) (lines : List (List Char)) :
    ∃ b skipped, ofLines .client tag lines = (.client b, skipped) ∧
      ∀ query : Network,
        (¬b.BoundTwice query → ∀ first second : String,
          Network.ofRule? first.toList = some query → Network.ofRule? second.toList = some query →
            b.resolve first = b.resolve second) ∧
        (b.BoundTwice query →
          b.resolve (toString query) = b.targets[toString query]? ∧
            ∀ text : String, Network.ofRule? text.toList = some query → text ≠ toString query →
              b.resolve text = b.targets[toString query.address]?) := by
  obtain ⟨b, steps, skipped, hlines, hb, hs, hwritten⟩ := ofLines_client tag lines
  refine ⟨b, skipped, hlines, fun query => ⟨fun honce first second hfirst hsecond => ?_,
    fun htwice => ⟨htwice.resolve_range, fun text htext hne => ?_⟩⟩⟩
  · rw [hb.resolve_eq_resolveNamed hs hwritten hfirst fun htwice => absurd htwice honce,
      hb.resolve_eq_resolveNamed hs hwritten hsecond fun htwice => absurd htwice honce]
  · rw [hb.resolve_eq_resolveNamed hs hwritten htext fun _ => hne, htwice.resolveNamed]

/-- The exception occurs: `10.0.0.1` and `10.0.0.1/32` name one network, and each is bound to an
address of its own. -/
theorem not_ofLines_resolve_alike :
    ¬∀ (tag : String) (lines : List (List Char)) (b : ClientBindings) (skipped : Nat),
      ofLines .client tag lines = (.client b, skipped) →
        ∀ (query : Network) (first second : String), Network.ofRule? first.toList = some query →
          Network.ofRule? second.toList = some query → b.resolve first = b.resolve second := by
  intro hall
  let client : Address := ⟨.v4, 0x0A000001, by decide⟩
  let lines := ["CN:ip:10.0.0.1:1.1.1.1".toList, "CN:cidr:10.0.0.1/32:2.2.2.2".toList]
  have hsame := hall "CN" lines _ _ rfl (Network.host client) "10.0.0.1" "10.0.0.1/32"
    (by decide +kernel) (by decide +kernel)
  exact absurd hsame (by decide +kernel)

end RuleSet

end TagRules
