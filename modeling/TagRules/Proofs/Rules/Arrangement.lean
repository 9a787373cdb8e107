import TagRules.Proofs.Net.Blocks
import TagRules.Rules.NetworkRules

/-
  What sorting leaves of some networks.

  A list is `Arranged` when it is in order and no member covers a later one.  Then no
  two members have an address in common (`Arranged.eq_of_covers`), and at most one
  covers a query (`Arranged.eq_of_common`).

  What is proved about `arrange`, which sorts and then compares each network with the
  one kept last:
    1. `arrange_arranged` — what it leaves is arranged, although a network is never
       compared with those kept before the last;
    2. `exists_covers_arrange` — everything dropped is inside something kept.
-/

namespace TagRules

open Net

/-- In order, and without a member inside an earlier one. -/
structure Arranged (nets : List Network) : Prop where
  ordered : nets.Pairwise fun a b => a.le b = true
  disjoint : nets.Pairwise fun a b => a.covers b = false

/-- Every network is written with the first address of its block. -/
def AllTruncated (nets : List Network) : Prop := ∀ n ∈ nets, n.truncate = n

theorem AllTruncated.map_truncate {nets : List Network} (h : AllTruncated nets) :
    nets.map Network.truncate = nets := by
  rw [List.map_congr_left h, List.map_id']

namespace Arranged

variable {nets : List Network}

theorem nil : Arranged [] := ⟨.nil, .nil⟩

theorem get_le (h : Arranged nets) {i j : Nat} (hij : i < j) (hj : j < nets.length) :
    nets[i].le nets[j] = true := List.pairwise_iff_getElem.mp h.ordered i j _ hj hij

theorem get_not_covers (h : Arranged nets) {i j : Nat} (hij : i < j) (hj : j < nets.length) :
    nets[i].covers nets[j] = false := List.pairwise_iff_getElem.mp h.disjoint i j _ hj hij

/-- A later member does not cover an earlier one either: it would be the same block, by order. -/
theorem get_not_covers_back (h : Arranged nets) {i j : Nat} (hij : i < j) (hj : j < nets.length) :
    nets[j].covers nets[i] = false := by
  rw [Bool.eq_false_iff]
  intro hc
  have hsame := Network.le_antisymm (h.get_le hij hj) (Network.le_of_covers hc)
  have hself : nets[i].covers nets[j] = true := by
    rw [← Network.covers_truncate_right, ← hsame, Network.covers_truncate_right]
    exact Network.covers_refl _
  rw [h.get_not_covers hij hj] at hself
  cases hself

theorem index_eq_of_covers (h : Arranged nets) {i j : Nat} (hi : i < nets.length)
    (hj : j < nets.length) (hc : nets[i].covers nets[j] = true) : i = j := by
  rcases Nat.lt_trichotomy i j with hlt | heq | hgt
  · rw [h.get_not_covers hlt hj] at hc
    cases hc
  · exact heq
  · rw [h.get_not_covers_back hgt hi] at hc
    cases hc

theorem index_eq_of_common (h : Arranged nets) {i j : Nat} (hi : i < nets.length)
    (hj : j < nets.length) {q : Network} (hiq : nets[i].covers q = true)
    (hjq : nets[j].covers q = true) : i = j := by
  rcases Nat.le_total nets[i].length nets[j].length with hl | hl
  · exact h.index_eq_of_covers hi hj (Network.covers_of_common hiq hjq hl)
  · exact (h.index_eq_of_covers hj hi (Network.covers_of_common hjq hiq hl)).symm

theorem eq_of_covers (h : Arranged nets) {a b : Network} (ha : a ∈ nets) (hb : b ∈ nets)
    (hc : a.covers b = true) : a = b := by
  obtain ⟨i, hi, rfl⟩ := List.getElem_of_mem ha
  obtain ⟨j, hj, rfl⟩ := List.getElem_of_mem hb
  have hij := h.index_eq_of_covers hi hj hc
  subst hij
  rfl

theorem eq_of_common (h : Arranged nets) {a b q : Network} (ha : a ∈ nets) (hb : b ∈ nets)
    (haq : a.covers q = true) (hbq : b.covers q = true) : a = b := by
  rcases Nat.le_total a.length b.length with hl | hl
  · exact h.eq_of_covers ha hb (Network.covers_of_common haq hbq hl)
  · exact (h.eq_of_covers hb ha (Network.covers_of_common hbq haq hl)).symm

end Arranged

namespace NetworkRules

/-! ## Dropping what is inside the network kept last -/

theorem keepAfter_sublist (kept : Network) (nets : List Network) :
    (keepAfter kept nets).Sublist nets := by
  induction nets generalizing kept with
  | nil => exact .slnil
  | cons n rest ih =>
    unfold keepAfter
    split
    · exact (ih kept).cons n
    · exact (ih n).cons_cons n

theorem exists_covers_keepAfter (kept : Network) (nets : List Network) :
    ∀ n ∈ nets, ∃ m ∈ kept :: keepAfter kept nets, m.covers n = true := by
  induction nets generalizing kept with
  | nil => exact fun n hn => absurd hn List.not_mem_nil
  | cons n rest ih =>
    intro x hx
    unfold keepAfter
    split
    · next hc =>
      rcases List.mem_cons.mp hx with rfl | hx
      · exact ⟨kept, List.mem_cons_self, hc⟩
      · exact ih kept x hx
    · rcases List.mem_cons.mp hx with rfl | hx
      · exact ⟨x, by simp, Network.covers_refl x⟩
      · obtain ⟨m, hm, hc⟩ := ih n x hx
        exact ⟨m, List.mem_cons_of_mem kept hm, hc⟩

/-- What a network covers among those in order after it stands directly after it, so comparing
each with the one kept last leaves no two of which one covers the other. -/
theorem keepAfter_disjoint (kept : Network) (nets : List Network)
    (h : (kept :: nets).Pairwise fun a b => a.le b = true) :
    (kept :: keepAfter kept nets).Pairwise fun a b => a.covers b = false := by
  induction nets generalizing kept with
  | nil => exact List.pairwise_singleton _ _
  | cons n rest ih =>
    obtain ⟨hkept, hrest⟩ := List.pairwise_cons.mp h
    unfold keepAfter
    split
    · apply ih kept
      exact List.pairwise_cons.mpr ⟨fun b hb => hkept b (List.mem_cons_of_mem n hb),
        (List.pairwise_cons.mp hrest).2⟩
    · next hc =>
      refine List.pairwise_cons.mpr ⟨?_, ih n hrest⟩
      intro b hb
      rcases List.mem_cons.mp hb with rfl | hb
      · exact Bool.eq_false_iff.mpr hc
      · -- `n` stands between `kept` and `b`, so a `kept` that covers `b` would cover `n`.
        have hbrest := (keepAfter_sublist n rest).subset hb
        rw [Bool.eq_false_iff]
        intro hcb
        exact hc (Network.covers_of_between (hkept n List.mem_cons_self)
          ((List.pairwise_cons.mp hrest).1 b hbrest) hcb)

theorem keepBroadest_sublist (nets : List Network) : (keepBroadest nets).Sublist nets := by
  cases nets with
  | nil => exact .slnil
  | cons n rest => exact (keepAfter_sublist n rest).cons_cons n

theorem keepBroadest_disjoint {nets : List Network}
    (h : nets.Pairwise fun a b => a.le b = true) :
    (keepBroadest nets).Pairwise fun a b => a.covers b = false := by
  cases nets with
  | nil => exact .nil
  | cons n rest => exact keepAfter_disjoint n rest h

theorem exists_covers_keepBroadest (nets : List Network) :
    ∀ n ∈ nets, ∃ m ∈ keepBroadest nets, m.covers n = true := by
  cases nets with
  | nil => exact fun n hn => absurd hn List.not_mem_nil
  | cons k rest =>
    intro n hn
    rcases List.mem_cons.mp hn with rfl | hn
    · exact ⟨n, List.mem_cons_self, Network.covers_refl n⟩
    · exact exists_covers_keepAfter k rest n hn

/-! ## Sorting -/

theorem ordered_mergeSort (nets : List Network) :
    (nets.mergeSort Network.le).Pairwise fun a b => a.le b = true :=
  @List.pairwise_mergeSort _ Network.le (fun _ _ _ => Network.le_trans) Network.le_total nets

theorem arrange_arranged (nets : List Network) : Arranged (arrange nets) :=
  ⟨(ordered_mergeSort nets).sublist (keepBroadest_sublist _),
    keepBroadest_disjoint (ordered_mergeSort nets)⟩

theorem mem_of_mem_arrange {nets : List Network} {n : Network} (h : n ∈ arrange nets) :
    n ∈ nets := List.mem_mergeSort.mp ((keepBroadest_sublist _).subset h)

theorem exists_covers_arrange {nets : List Network} {n : Network} (h : n ∈ nets) :
    ∃ m ∈ arrange nets, m.covers n = true :=
  exists_covers_keepBroadest _ n (List.mem_mergeSort.mpr h)

theorem length_arrange_le (nets : List Network) : (arrange nets).length ≤ nets.length := by
  have h := (keepBroadest_sublist (nets.mergeSort Network.le)).length_le
  rwa [List.length_mergeSort] at h

theorem mem_arrange_of_length_eq {nets : List Network}
    (h : (arrange nets).length = nets.length) {n : Network} (hn : n ∈ nets) :
    n ∈ arrange nets := by
  have heq := (keepBroadest_sublist (nets.mergeSort Network.le)).eq_of_length
    (by rw [List.length_mergeSort]; exact h)
  unfold arrange
  rw [heq]
  exact List.mem_mergeSort.mpr hn

end NetworkRules

end TagRules
