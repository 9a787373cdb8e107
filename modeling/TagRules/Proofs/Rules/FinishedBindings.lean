import Mathlib.Data.List.Dedup
import TagRules.Proofs.Rules.WellFormed

/-
  What finishing does to bindings.

  Some steps bound clients and networks, with any number of finishes on the way.  One more finish
  removes names of networks only, and returns how many (`length_removed`).  The list of networks
  may have one of them several times and the map has it once, so that is the number of different
  networks of the list that are strictly inside another (`Follows.finish_count`).

  What is left does not depend on when the bindings were finished before: the names of clients as
  they were, and of networks the outermost of all that were bound, each with the target it was
  last bound to (`finish_outermost`).
-/

namespace TagRules

open Net Text

namespace Net.Network

instance (a b : Network) : Decidable (a.StrictlyCovers b) :=
  inferInstanceAs (Decidable (_ ∧ _))

end Net.Network

/-- The different networks that are strictly inside another one. -/
def nested (nets : List Network) : List Network :=
  nets.dedup.filter fun n => ∃ m ∈ nets, m.StrictlyCovers n

theorem mem_nested {nets : List Network} {n : Network} :
    n ∈ nested nets ↔ n ∈ nets ∧ ¬IsOutermost nets n := by
  simp only [nested, IsOutermost, List.mem_filter, List.mem_dedup, decide_eq_true_eq]
  constructor
  · rintro ⟨hn, m, hm, hmn⟩
    exact ⟨hn, fun hout => hout.2 m hm hmn⟩
  · rintro ⟨hn, hinner⟩
    refine ⟨hn, ?_⟩
    by_contra hno
    exact hinner ⟨hn, fun m hm hmn => hno ⟨m, hm, hmn⟩⟩

namespace ClientBindings

/-! ## The names that are removed -/

/-- The names that have a target, and none after finishing. -/
def removed (b : ClientBindings) : List String :=
  b.targets.keys.filter fun key => !b.finish.1.targets.contains key

theorem size_dropNested (ranges : NetworkRules) (nets : List Network)
    (targets : Std.ExtTreeMap String Address) :
    (dropNested ranges nets targets).2 + (dropNested ranges nets targets).1.size =
      targets.size := by
  induction nets generalizing targets with
  | nil => exact Nat.zero_add _
  | cons n rest ih =>
    unfold dropNested
    split
    · exact ih targets
    · have herase := ih (targets.erase (toString n))
      rw [Std.ExtTreeMap.size_erase] at herase
      dsimp only
      cases hc : targets.contains (toString n) with
      | true =>
        have hpos : targets.size ≠ 0 := by
          intro hzero
          rw [Std.ExtTreeMap.eq_empty_iff_size_eq_zero.mpr hzero] at hc
          simp at hc
        rw [hc, if_pos rfl] at herase
        rw [Bool.toNat_true]
        omega
      | false =>
        rw [hc, if_neg Bool.false_ne_true] at herase
        exact herase

theorem size_finish (b : ClientBindings) : b.finish.2 + b.finish.1.size = b.size := by
  unfold finish size
  dsimp only
  split
  · exact Nat.zero_add _
  · exact size_dropNested ..

theorem mem_of_mem_finish {b : ClientBindings} {key : String} (h : key ∈ b.finish.1.targets) :
    key ∈ b.targets := by
  unfold finish at h
  dsimp only at h
  split at h
  · exact h
  · rw [Std.ExtTreeMap.mem_iff_isSome_getElem?, getElem?_dropNested] at h
    rw [Std.ExtTreeMap.mem_iff_isSome_getElem?]
    split at h
    · cases h
    · exact h

theorem nodup_keys (targets : Std.ExtTreeMap String Address) : targets.keys.Nodup :=
  Std.ExtTreeMap.distinct_keys.imp fun hne heq => hne (Std.compare_eq_iff_eq.mpr heq)

theorem mem_removed {b : ClientBindings} {key : String} :
    key ∈ removed b ↔ key ∈ b.targets ∧ key ∉ b.finish.1.targets := by
  rw [removed, List.mem_filter, Std.ExtTreeMap.mem_keys, Std.ExtTreeMap.mem_iff_contains,
    Std.ExtTreeMap.mem_iff_contains, Bool.not_eq_true', Bool.not_eq_true]

theorem length_removed (b : ClientBindings) : (removed b).length = b.finish.2 := by
  have hkept : (b.targets.keys.filter fun key => b.finish.1.targets.contains key).Perm
      b.finish.1.targets.keys := by
    refine (List.perm_ext_iff_of_nodup ((nodup_keys _).filter _) (nodup_keys _)).mpr fun key => ?_
    rw [List.mem_filter, Std.ExtTreeMap.mem_keys, Std.ExtTreeMap.mem_keys,
      ← Std.ExtTreeMap.mem_iff_contains]
    exact ⟨fun h => h.2, fun h => ⟨mem_of_mem_finish h, h⟩⟩
  have hsplit := List.length_eq_length_filter_add
    (l := b.targets.keys) fun key => b.finish.1.targets.contains key
  have hsize := b.size_finish
  rw [hkept.length_eq, Std.ExtTreeMap.length_keys, Std.ExtTreeMap.length_keys] at hsplit
  unfold size at hsize
  unfold removed
  omega

theorem finish_of_sorted {b : ClientBindings} (h : b.ranges.isSorted = true) :
    b.finish = (b, 0) := by
  have hsort : b.ranges.sort = (b.ranges, 0) := if_pos h
  unfold finish
  rw [hsort]
  rfl

theorem isSorted_finish (b : ClientBindings) : b.finish.1.ranges.isSorted = true := by
  rw [ranges_finish]
  exact NetworkRules.isSorted_sort b.ranges

/-! ## Bindings that follow steps -/

namespace Follows

variable {steps : List Step} {b : ClientBindings}

theorem mem_removed_iff (h : Follows steps b) {key : String} :
    key ∈ removed b ↔
      ∃ n ∈ b.ranges.toList, n ∉ b.ranges.sort.1.toList ∧ toString n = key := by
  have hget := getElem?_finish (NetworkRules.sort_arranged h.arranged) key
  rw [mem_removed, Std.ExtTreeMap.mem_iff_isSome_getElem?, Std.ExtTreeMap.mem_iff_isSome_getElem?,
    hget]
  constructor
  · rintro ⟨hold, hnew⟩
    by_contra hno
    rw [if_neg hno] at hnew
    exact hnew hold
  · rintro ⟨n, hn, hdropped, rfl⟩
    rw [if_pos ⟨n, hn, hdropped, rfl⟩]
    exact ⟨Std.ExtTreeMap.mem_iff_isSome_getElem?.mp (h.mem_targets hn), by simp⟩

/-- As many names are removed as different networks are inside another. -/
theorem finish_count (h : Follows steps b) : b.finish.2 = (nested b.ranges.toList).length := by
  have ht := h.represents.allTruncated
  have hkept : ∀ n, n ∈ b.ranges.sort.1.toList ↔ IsOutermost b.ranges.toList n := by
    intro n
    have hmem := (NetworkRules.sort_represents (.self ht)).mem_iff_isOutermost
      (NetworkRules.sort_arranged h.arranged) (n := n)
    rwa [ht.map_truncate] at hmem
  have hperm : (removed b).Perm ((nested b.ranges.toList).map toString) := by
    have hnodup : ((nested b.ranges.toList).map toString).Nodup :=
      ((List.nodup_dedup _).filter _).map fun _ _ heq => Network.toString_inj.mp heq
    refine (List.perm_ext_iff_of_nodup ((nodup_keys _).filter _) hnodup).mpr fun key => ?_
    simp only [List.mem_map, mem_nested, ← hkept, and_assoc]
    exact h.mem_removed_iff
  rw [← b.length_removed, hperm.length_eq, List.length_map]

end Follows

/-- After any steps a finish leaves the targets of clients as they are.  Of networks exactly the
outermost of all that were bound are left, each with the target it was last bound to.  What it
returns is how many names it removed, and to finish again does nothing.  Then a network is covered
exactly if one that was bound covers it, and resolving its written form gives a target. -/
theorem finish_outermost (steps : List Step) :
    let b := run steps
    let finished := b.finish.1
    let given := (bound steps).map Network.truncate
    (∀ key : String, '/' ∉ key.toList → finished.targets[key]? = b.targets[key]?) ∧
      (∀ key : String, '/' ∈ key.toList →
        (key ∈ finished.targets ↔ ∃ n, IsOutermost given n ∧ toString n = key)) ∧
      (∀ n, IsOutermost given n →
        finished.targets[toString n]? = lastTarget (Step.rangeTarget? n) steps) ∧
      b.finish.2 = (removed b).length ∧
      finished.finish = (finished, 0) ∧
      ∀ n, (finished.covers n = true ↔ ∃ m ∈ bound steps, m.covers n = true) ∧
        (finished.covers n = true → (finished.resolve (toString n)).isSome = true) := by
  intro b finished given
  have hb : Follows steps b := follows_run steps
  have h : Follows steps finished := hb.finish
  have ha : Arranged finished.ranges.toList := by
    rw [ranges_finish]
    exact NetworkRules.sort_arranged hb.arranged
  have hkept : ∀ {n}, n ∈ finished.ranges.toList ↔ IsOutermost given n :=
    h.represents.mem_iff_isOutermost ha
  have hcovers : ∀ n, finished.covers n = (bound steps).any fun m => m.covers n :=
    NetworkRules.covers_eq_any ha h.represents
  refine ⟨?_, ?_, ?_, ?_, finish_of_sorted b.isSorted_finish, fun n => ⟨?_, ?_⟩⟩
  · intro key hkey
    rw [h.clients key hkey, hb.clients key hkey]
  · intro key hkey
    simp only [h.mem_targets_iff hkey, hkept]
  · exact fun n hn => h.ranges n (hkept.mpr hn)
  · exact b.length_removed.symm
  · rw [hcovers, List.any_eq_true]
  · intro hc
    have hcomplete : finished.Complete := by
      have hrun := complete_run_finish steps
      rwa [run_append] at hrun
    have hquery : Network.ofRule? (toString n).toList = some n.truncate := by
      rw [show (toString n).toList = n.write from String.toList_ofList]
      exact n.ofRule?_write
    refine hcomplete.resolve_isSome hquery ?_
    simpa only [hcovers, Network.covers_truncate_right] using hc

end ClientBindings

end TagRules
