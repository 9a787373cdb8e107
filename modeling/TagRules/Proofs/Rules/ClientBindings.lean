import Mathlib.Data.List.Induction
import TagRules.Proofs.Net.NetworkText
import TagRules.Proofs.Rules.NetworkSearch
import TagRules.Rules.ClientBindings

/-
  What stands in for a client, whatever was bound and whenever the bindings were
  finished.

  The bindings keep networks twice, in a sorted list and under their written form in
  the map of targets, and `finish` drops nested ones from both.  `Follows` says how the
  two depend on the steps taken so far:
    1. the list represents the networks bound, and is arranged when it is sorted;
    2. a name without a slash has the target it was last bound to;
    3. a network of the list has the target it was last bound to, and no other name
       with a slash has a target.
  It holds of no bindings and is kept by every step (`Follows.step`), so it holds after
  every run of them (`follows_run`).  What an address resolves to after a last `finish`
  is read off it (`resolve_run_finish`).
-/

namespace TagRules

open Net Text

/-- What a client may be called: anything without a slash, which only networks have. -/
structure ClientName where
  text : String
  slash_notMem : '/' ∉ text.toList

namespace ClientName

/-- The name as it is kept, without blanks at its ends. -/
def key (name : ClientName) : String := String.ofList (trim name.text.toList)

/-- The name of a client that is known by its address. -/
def ofAddress (a : Address) : ClientName :=
  ⟨toString a, by
    show '/' ∉ (String.ofList a.write).toList
    rw [String.toList_ofList]
    exact a.slash_notMem_write⟩

theorem key_ofAddress (a : Address) : (ofAddress a).key = toString a := by
  show String.ofList (trim (String.ofList a.write).toList) = String.ofList a.write
  rw [String.toList_ofList, Address.trim_write]

theorem slash_notMem_key (name : ClientName) : '/' ∉ name.key.toList := by
  unfold key
  rw [String.toList_ofList]
  exact fun h => name.slash_notMem (mem_of_mem_trim h)

end ClientName

namespace ClientBindings

/-- What can be done while bindings are made. -/
inductive Step where
  | bindClient (client : ClientName) (target : Address)
  | bindRange (n : Network) (target : Address)
  | finish

namespace Step

def apply (b : ClientBindings) : Step → ClientBindings
  | bindClient client target => b.bindAddress client.text target
  | bindRange n target => b.bindRange n target
  | finish => b.finish.1

/-- The target that a step binds a client to, who is kept under the given name. -/
def clientTarget? (key : String) : Step → Option Address
  | bindClient client target => if client.key = key then some target else none
  | bindRange _ _ => none
  | finish => none

/-- The target that a step binds a network to, which is written with its first address. -/
def rangeTarget? (n : Network) : Step → Option Address
  | bindRange m target => if m.truncate = n then some target else none
  | bindClient _ _ => none
  | finish => none

/-- The network that a step binds. -/
def range? : Step → Option Network
  | bindRange n _ => some n
  | bindClient _ _ => none
  | finish => none

end Step

def run (steps : List Step) : ClientBindings := steps.foldl Step.apply empty

/-- The networks bound, in order. -/
def bound (steps : List Step) : List Network := steps.filterMap Step.range?

/-- The last target that some of the steps give. -/
def lastTarget (target? : Step → Option Address) (steps : List Step) : Option Address :=
  steps.reverse.findSome? target?

theorem lastTarget_append (target? : Step → Option Address) (steps : List Step) (s : Step) :
    lastTarget target? (steps ++ [s]) = (target? s).or (lastTarget target? steps) := by
  simp only [lastTarget, List.reverse_append, List.reverse_singleton, List.singleton_append,
    List.findSome?_cons]
  cases target? s <;> rfl

theorem run_append (steps : List Step) (s : Step) : run (steps ++ [s]) = s.apply (run steps) := by
  simp [run]

theorem bound_append (steps : List Step) (s : Step) :
    bound (steps ++ [s]) = bound steps ++ s.range?.toList := by
  cases h : s.range? <;> simp [bound, h]

/-! ## Dropping bindings -/

/-- The entries dropped are those of the networks that a search does not find as themselves. -/
theorem getElem?_dropNested (ranges : NetworkRules) (nets : List Network)
    (targets : Std.ExtTreeMap String Address) (key : String) :
    (dropNested ranges nets targets).1[key]? =
      if ∃ n ∈ nets, ranges.find? n ≠ some n ∧ toString n = key then none else targets[key]? := by
  induction nets generalizing targets with
  | nil => simp [dropNested]
  | cons n rest ih =>
    unfold dropNested
    by_cases hn : ranges.find? n = some n
    · rw [if_pos (by rw [hn]; exact beq_self_eq_true _), ih]
      simp [hn]
    · rw [if_neg (by simpa using hn)]
      show (dropNested ranges rest (targets.erase (toString n))).1[key]? = _
      rw [ih, Std.ExtTreeMap.getElem?_erase]
      by_cases hk : toString n = key
      · simp [hn, hk]
      · simp [hk]

theorem ranges_finish (b : ClientBindings) : b.finish.1.ranges = b.ranges.sort.1 := by
  unfold finish
  simp only
  split <;> rfl

theorem getElem?_finish {b : ClientBindings} (ha : Arranged b.ranges.sort.1.toList) (key : String) :
    b.finish.1.targets[key]? =
      if ∃ n ∈ b.ranges.toList, n ∉ b.ranges.sort.1.toList ∧ toString n = key then none
      else b.targets[key]? := by
  unfold finish
  simp only
  split
  · next hdropped =>
    rw [if_neg]
    rintro ⟨n, hn, hnot, -⟩
    exact hnot (NetworkRules.mem_sort_of_none_dropped hdropped hn)
  · simp only [getElem?_dropNested, ne_eq]
    congr 1
    rw [eq_iff_iff]
    simp only [← NetworkRules.find?_ne_self_iff ha, ne_eq]

/-! ## What the bindings hold after some steps -/

/-- How bindings depend on the steps that made them. -/
structure Follows (steps : List Step) (b : ClientBindings) : Prop where
  represents : Represents (bound steps) b.ranges.toList
  arranged : b.ranges.isSorted = true → Arranged b.ranges.toList
  clients : ∀ key : String, '/' ∉ key.toList →
    b.targets[key]? = lastTarget (Step.clientTarget? key) steps
  ranges : ∀ n ∈ b.ranges.toList, b.targets[toString n]? = lastTarget (Step.rangeTarget? n) steps
  others : ∀ key : String, '/' ∈ key.toList → (∀ n ∈ b.ranges.toList, toString n ≠ key) →
    b.targets[key]? = none

theorem follows_empty : Follows [] empty where
  represents := .nil
  arranged _ := .nil
  clients key _ := by simp [empty, lastTarget]
  ranges n hn := by cases hn
  others key _ _ := by simp [empty]

theorem slash_mem_toString (n : Network) : '/' ∈ (toString n).toList := by
  show '/' ∈ (String.ofList n.write).toList
  rw [String.toList_ofList]
  exact n.slash_mem_write

namespace Follows

variable {steps : List Step} {b : ClientBindings}

theorem bindClient (h : Follows steps b) (client : ClientName) (target : Address) :
    Follows (steps ++ [.bindClient client target]) (b.bindAddress client.text target) := by
  have hget : ∀ key, (b.bindAddress client.text target).targets[key]? =
      if client.key = key then some target else b.targets[key]? := by
    intro key
    show (b.targets.insert client.key target)[key]? = _
    simp only [Std.ExtTreeMap.getElem?_insert, Std.compare_eq_iff_eq]
  have hne : ∀ key : String, '/' ∈ key.toList → client.key ≠ key := by
    rintro key hkey rfl
    exact client.slash_notMem_key hkey
  constructor
  · rw [bound_append, Step.range?, Option.toList_none, List.append_nil]
    exact h.represents
  · exact h.arranged
  · intro key hkey
    rw [hget, lastTarget_append, h.clients key hkey, Step.clientTarget?]
    split <;> rfl
  · intro n hn
    rw [hget, if_neg (hne _ (slash_mem_toString n)), lastTarget_append, Step.rangeTarget?,
      Option.none_or]
    exact h.ranges n hn
  · intro key hkey hn
    rw [hget, if_neg (hne key hkey)]
    exact h.others key hkey hn

theorem bindRange (h : Follows steps b) (n : Network) (target : Address) :
    Follows (steps ++ [.bindRange n target]) (b.bindRange n target) := by
  have hget : ∀ key, (b.bindRange n target).targets[key]? =
      if toString n.truncate = key then some target else b.targets[key]? := by
    intro key
    simp only [ClientBindings.bindRange, Std.ExtTreeMap.getElem?_insert, Std.compare_eq_iff_eq]
  have hlist : (b.bindRange n target).ranges.toList = b.ranges.toList ++ [n.truncate] := by
    simp [ClientBindings.bindRange, NetworkRules.add, NetworkRules.toList]
  constructor
  · rw [bound_append, Step.range?, Option.toList_some, hlist]
    exact h.represents.push n
  · intro hsorted
    cases hsorted
  · intro key hkey
    have hne : toString n.truncate ≠ key := by
      rintro rfl
      exact hkey (slash_mem_toString n.truncate)
    rw [hget, if_neg hne, lastTarget_append, Step.clientTarget?, Option.none_or]
    exact h.clients key hkey
  · intro m hm
    rw [hget, lastTarget_append, Step.rangeTarget?]
    by_cases heq : n.truncate = m
    · rw [if_pos heq, if_pos (Network.toString_inj.mpr heq), Option.some_or]
    · -- Another network has another name, and was in the list before.
      rw [if_neg heq, if_neg (mt Network.toString_inj.mp heq), Option.none_or]
      apply h.ranges m
      rw [hlist, List.mem_append] at hm
      exact hm.resolve_right fun hmn => heq (List.mem_singleton.mp hmn).symm
  · intro key hkey hn
    rw [hlist] at hn
    rw [hget, if_neg (hn n.truncate (by simp))]
    exact h.others key hkey fun m hm => hn m (List.mem_append_left _ hm)

theorem finish (h : Follows steps b) : Follows steps b.finish.1 := by
  -- Clients have no slash in their names, so none of the names dropped is theirs.
  have ha := NetworkRules.sort_arranged h.arranged
  constructor
  · rw [ranges_finish]
    exact NetworkRules.sort_represents h.represents
  · intro _
    rw [ranges_finish]
    exact ha
  · intro key hkey
    rw [getElem?_finish ha, if_neg]
    · exact h.clients key hkey
    · rintro ⟨n, -, -, rfl⟩
      exact hkey (slash_mem_toString n)
  · intro n hn
    rw [ranges_finish] at hn
    rw [getElem?_finish ha, if_neg]
    · exact h.ranges n (NetworkRules.mem_of_mem_sort hn)
    · rintro ⟨m, -, hm, heq⟩
      exact hm (Network.toString_inj.mp heq ▸ hn)
  · intro key hkey hn
    rw [ranges_finish] at hn
    rw [getElem?_finish ha]
    split
    · rfl
    · next hkept =>
      -- A network of the old list with this name would have been dropped or still be there.
      apply h.others key hkey
      intro n hold heq
      by_cases hnew : n ∈ b.ranges.sort.1.toList
      · exact hn n hnew heq
      · exact hkept ⟨n, hold, hnew, heq⟩

theorem append_finish (h : Follows steps b) : Follows (steps ++ [.finish]) b := by
  constructor
  · rw [bound_append, Step.range?, Option.toList_none, List.append_nil]
    exact h.represents
  · exact h.arranged
  · intro key hkey
    rw [lastTarget_append, Step.clientTarget?, Option.none_or]
    exact h.clients key hkey
  · intro n hn
    rw [lastTarget_append, Step.rangeTarget?, Option.none_or]
    exact h.ranges n hn
  · exact h.others

theorem step (h : Follows steps b) (s : Step) : Follows (steps ++ [s]) (s.apply b) := by
  cases s with
  | bindClient client target => exact h.bindClient client target
  | bindRange n target => exact h.bindRange n target
  | finish => exact h.finish.append_finish

end Follows

theorem follows_run (steps : List Step) : Follows steps (run steps) := by
  induction steps using List.reverseRecOn with
  | nil => exact follows_empty
  | append_singleton steps s ih =>
    rw [run_append]
    exact ih.step s

/-! ## What stands in for an address -/

theorem exists_lastTarget {steps : List Step} {m : Network} (h : m ∈ bound steps) :
    ∃ target, lastTarget (Step.rangeTarget? m.truncate) steps = some target := by
  obtain ⟨s, hs, hrange⟩ := List.mem_filterMap.mp h
  have hsome : (lastTarget (Step.rangeTarget? m.truncate) steps).isSome = true := by
    rw [lastTarget, List.findSome?_isSome_iff]
    refine ⟨s, List.mem_reverse.mpr hs, ?_⟩
    cases s with
    | bindClient client target => cases hrange
    | bindRange n target =>
      rw [Step.rangeTarget?, if_pos (congrArg Network.truncate (Option.some.inj hrange))]
      rfl
    | finish => cases hrange
  exact Option.isSome_iff_exists.mp hsome

/-- For an address it does not matter that its own binding is looked up twice. -/
theorem resolve_address (b : ClientBindings) (a : Address) :
    b.resolve (toString a) =
      b.targets[toString a]?.or
        ((b.ranges.find? (Network.host a)).bind fun n => b.targets[toString n]?) := by
  have hchars : (toString a).toList = a.write := String.toList_ofList
  have hhost : (Network.host a).isHost = true := beq_self_eq_true _
  have haddress : (Network.host a).address = a := rfl
  unfold resolve
  simp only [hchars, Network.ofRule?_address, Option.bind_eq_bind, Option.bind_some, hhost,
    haddress, if_true]
  rw [← Option.or_assoc, Option.or_self]

namespace Follows

variable {steps : List Step} {b : ClientBindings}

theorem target_address (h : Follows steps b) (a : Address) :
    b.targets[toString a]? = lastTarget (Step.clientTarget? (toString a)) steps := by
  apply h.clients
  rw [← ClientName.key_ofAddress a]
  exact (ClientName.ofAddress a).slash_notMem_key

/-- In sorted ranges the broadest network bound is found, and nothing else. -/
theorem find?_eq_some_iff (h : Follows steps b) (hs : b.ranges.isSorted = true)
    {query n : Network} :
    b.ranges.find? query = some n ↔ IsBroadest (bound steps) query n := by
  rw [NetworkRules.find?_eq_some_iff (h.arranged hs)]
  exact h.represents.covers_iff (h.arranged hs)

theorem exists_target (h : Follows steps b) (hs : b.ranges.isSorted = true) {query n : Network}
    (hn : b.ranges.find? query = some n) :
    ∃ target, lastTarget (Step.rangeTarget? n) steps = some target ∧
      b.targets[toString n]? = some target := by
  obtain ⟨m, hm, rfl⟩ := ((h.find?_eq_some_iff hs).mp hn).given
  obtain ⟨target, htarget⟩ := exists_lastTarget hm
  have hmem := ((NetworkRules.find?_eq_some_iff (h.arranged hs)).mp hn).1
  exact ⟨target, htarget, by rw [h.ranges _ hmem, htarget]⟩

theorem exists_find? (h : Follows steps b) (hs : b.ranges.isSorted = true) {query m : Network}
    (hm : m ∈ bound steps) (hc : m.covers query = true) : ∃ n, b.ranges.find? query = some n := by
  obtain ⟨n, hn, hnm⟩ := h.represents.covered m hm
  exact ⟨n, (NetworkRules.find?_eq_some_iff (h.arranged hs)).mpr ⟨hn, Network.covers_trans hnm hc⟩⟩

theorem find?_eq_none (h : Follows steps b) (hs : b.ranges.isSorted = true) {query : Network}
    (hnone : ∀ m ∈ bound steps, m.covers query = false) : b.ranges.find? query = none := by
  apply Option.eq_none_iff_forall_ne_some.mpr
  intro n hn
  have hbroad := (h.find?_eq_some_iff hs).mp hn
  obtain ⟨m, hm, rfl⟩ := hbroad.given
  have hc := hbroad.covers
  rw [Network.covers_truncate_left, hnone m hm] at hc
  cases hc

end Follows

/-- After any steps that end with `finish`, an address resolves to the target it was last bound to;
if it never was, to the last target of the broadest network bound that has it; and if there is
none, to nothing.  A network that is found always has a target. -/
theorem resolve_run_finish (steps : List Step) (a : Address) :
    (∀ target, lastTarget (Step.clientTarget? (toString a)) steps = some target →
      (run (steps ++ [.finish])).resolve (toString a) = some target) ∧
    (lastTarget (Step.clientTarget? (toString a)) steps = none →
      (∃ m ∈ bound steps, m.covers (Network.host a) = true) →
        ∃ n target, IsBroadest (bound steps) (Network.host a) n ∧
          lastTarget (Step.rangeTarget? n) steps = some target ∧
          (run (steps ++ [.finish])).resolve (toString a) = some target) ∧
    (lastTarget (Step.clientTarget? (toString a)) steps = none →
      (∀ m ∈ bound steps, m.covers (Network.host a) = false) →
        (run (steps ++ [.finish])).resolve (toString a) = none) ∧
    ∀ query n, (run (steps ++ [.finish])).ranges.find? query = some n →
      ((run (steps ++ [.finish])).targets[toString n]?).isSome = true := by
  have h : Follows steps (run (steps ++ [.finish])) := by
    rw [run_append]
    exact (follows_run steps).finish
  have hs : (run (steps ++ [.finish])).ranges.isSorted = true := by
    rw [run_append]
    show (run steps).finish.1.ranges.isSorted = true
    rw [ranges_finish]
    exact NetworkRules.isSorted_sort _
  refine ⟨?_, ?_, ?_, ?_⟩
  · intro target hdirect
    rw [resolve_address, h.target_address, hdirect, Option.some_or]
  · rintro hdirect ⟨m, hm, hc⟩
    obtain ⟨n, hn⟩ := h.exists_find? hs hm hc
    obtain ⟨target, hlast, htarget⟩ := h.exists_target hs hn
    refine ⟨n, target, (h.find?_eq_some_iff hs).mp hn, hlast, ?_⟩
    rw [resolve_address, h.target_address, hdirect, Option.none_or, hn, Option.bind_some, htarget]
  · intro hdirect hnone
    rw [resolve_address, h.target_address, hdirect, Option.none_or, h.find?_eq_none hs hnone,
      Option.bind_none]
  · intro query n hn
    obtain ⟨target, -, htarget⟩ := h.exists_target hs hn
    rw [htarget]
    rfl

end ClientBindings

end TagRules
