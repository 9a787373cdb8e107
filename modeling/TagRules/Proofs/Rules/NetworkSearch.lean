import TagRules.Proofs.Rules.Arrangement

/-
  Searching networks by bisection finds what a scan of all of them finds.

  `bisect` compares networks by their order, which is not the order of containment,
  and stops at the first network that covers the query.  In an arranged list that is
  exact (`bisect_eq_of_covers`): the half that is given up cannot hold a network that
  covers the query, because it would have to cover the one in the middle as well.

  `ofList_search` says what that means for networks as they were given, in any order,
  repeated, nested and with any address of their block: what is found is the broadest
  of those that cover the query (`IsBroadest`), and something is found whenever there
  is one.  Sorting and dropping lose nothing and invent nothing.
-/

namespace TagRules

open Net

/-- `n` is the broadest of the given networks that cover the query, written with the first address
of its block. -/
structure IsBroadest (nets : List Network) (query n : Network) : Prop where
  given : ∃ m ∈ nets, m.truncate = n
  covers : n.covers query = true
  broadest : ∀ m ∈ nets, m.covers query = true → n.length ≤ m.length

namespace IsBroadest

variable {nets : List Network} {query n m : Network}

theorem covers_given (h : IsBroadest nets query n) (hm : m ∈ nets) (hc : m.covers query = true) :
    n.covers m = true := Network.covers_of_common h.covers hc (h.broadest m hm hc)

theorem truncate_eq (h : IsBroadest nets query n) : n.truncate = n := by
  obtain ⟨m, -, rfl⟩ := h.given
  exact m.truncate_truncate

theorem unique (hn : IsBroadest nets query n) (hm : IsBroadest nets query m) : n = m := by
  obtain ⟨a, ha, rfl⟩ := hn.given
  obtain ⟨b, hb, rfl⟩ := hm.given
  have hab := hn.covers_given hb (by simpa using hm.covers)
  have hba := hm.covers_given ha (by simpa using hn.covers)
  rw [Network.covers_truncate_left] at hab hba
  exact Network.truncate_eq_of_covers hab hba

end IsBroadest

/-- The kept networks are some of the given ones, written with their first addresses, and cover
all of them. -/
structure Represents (nets kept : List Network) : Prop where
  given : ∀ n ∈ kept, ∃ m ∈ nets, m.truncate = n
  covered : ∀ m ∈ nets, ∃ n ∈ kept, n.covers m = true

theorem represents_map (nets : List Network) : Represents nets (nets.map Network.truncate) := by
  constructor
  · exact fun n hn => List.mem_map.mp hn
  · intro m hm
    refine ⟨m.truncate, List.mem_map_of_mem hm, ?_⟩
    rw [Network.covers_truncate_left]
    exact m.covers_refl

namespace Represents

variable {nets kept : List Network}

theorem nil : Represents [] [] := represents_map []

theorem self (h : AllTruncated nets) : Represents nets nets := by
  have hmap := represents_map nets
  rwa [h.map_truncate] at hmap

theorem allTruncated (h : Represents nets kept) : AllTruncated kept := by
  intro n hn
  obtain ⟨m, -, rfl⟩ := h.given n hn
  exact m.truncate_truncate

theorem push (h : Represents nets kept) (n : Network) :
    Represents (nets ++ [n]) (kept ++ [n.truncate]) := by
  constructor
  · intro m hm
    rcases List.mem_append.mp hm with hm | hm
    · obtain ⟨k, hk, heq⟩ := h.given m hm
      exact ⟨k, List.mem_append_left _ hk, heq⟩
    · exact ⟨n, by simp, (List.mem_singleton.mp hm).symm⟩
  · intro m hm
    rcases List.mem_append.mp hm with hm | hm
    · obtain ⟨k, hk, hc⟩ := h.covered m hm
      exact ⟨k, List.mem_append_left _ hk, hc⟩
    · refine ⟨n.truncate, by simp, ?_⟩
      rw [List.mem_singleton.mp hm, Network.covers_truncate_left]
      exact n.covers_refl

/-- Nothing that sorting drops is missed. -/
theorem arrange (h : Represents nets kept) : Represents nets (NetworkRules.arrange kept) := by
  constructor
  · exact fun n hn => h.given n (NetworkRules.mem_of_mem_arrange hn)
  · intro m hm
    obtain ⟨n, hn, hnm⟩ := h.covered m hm
    obtain ⟨k, hk, hkn⟩ := NetworkRules.exists_covers_arrange hn
    exact ⟨k, hk, Network.covers_trans hkn hnm⟩

/-- Of networks arranged, the one that covers a query is the broadest given one that does. -/
theorem covers_iff (h : Represents nets kept) (ha : Arranged kept) {query n : Network} :
    (n ∈ kept ∧ n.covers query = true) ↔ IsBroadest nets query n := by
  constructor
  · rintro ⟨hn, hc⟩
    refine ⟨h.given n hn, hc, ?_⟩
    intro m hm hmc
    obtain ⟨k, hk, hkm⟩ := h.covered m hm
    have heq : k = n := ha.eq_of_common hk hn (Network.covers_trans hkm hmc) hc
    rw [← heq]
    exact (Network.covers_iff.mp hkm).2.1
  · intro hb
    -- What was kept for the broadest network covers it, and is no broader.
    obtain ⟨m, hm, hmn⟩ := hb.given
    obtain ⟨k, hk, hkm⟩ := h.covered m hm
    obtain ⟨a, ha', hak⟩ := h.given k hk
    have hkn : k.covers n = true := by rwa [← hmn, Network.covers_truncate_right]
    have hnk : n.covers k = true := by
      rw [← hak, Network.covers_truncate_right]
      apply hb.covers_given ha'
      rw [← Network.covers_truncate_left, hak]
      exact Network.covers_trans hkn hb.covers
    have heq := Network.truncate_eq_of_covers hnk hkn
    rw [hb.truncate_eq, h.allTruncated k hk] at heq
    exact ⟨heq ▸ hk, hb.covers⟩

end Represents

namespace NetworkRules

/-! ## The bisection -/

theorem mem_of_bisect {nets : Array Network} {query n : Network} {low high : Nat}
    {hh : high ≤ nets.size} (h : bisect nets query low high hh = some n) :
    n ∈ nets ∧ n.covers query = true := by
  fun_induction bisect nets query low high hh with
  | case1 low high hh hlt middle hm candidate hc =>
    rw [← Option.some.inj h]
    exact ⟨Array.getElem_mem hm, hc⟩
  | case2 low high hh hlt middle hm candidate hc hgt ih => exact ih h
  | case3 low high hh hlt middle hm candidate hc hgt ih => exact ih h
  | case4 low high hh hlt => cases h

/-- In an arranged list a network of the searched part that covers the query is found. -/
theorem bisect_eq_of_covers {nets : Array Network} (ha : Arranged nets.toList) {query : Network}
    {i : Nat} (hi : i < nets.size) (hq : nets[i].covers query = true) {low high : Nat}
    (hh : high ≤ nets.size) (hlow : low ≤ i) (hhigh : i < high) :
    bisect nets query low high hh = some nets[i] := by
  fun_induction bisect nets query low high hh with
  | case1 low high hh hlt middle hm candidate hc =>
    have heq : middle = i :=
      ha.index_eq_of_common (by simpa using hm) (by simpa using hi) (by simpa using hc)
        (by simpa using hq)
    simp only [candidate, heq]
  | case2 low high hh hlt middle hm candidate hc hgt ih =>
    -- The candidate comes after the query, and the network we look for does not.
    refine ih hlow ?_
    apply Nat.lt_of_not_le
    intro hle
    have hcq : candidate.le query = true := by
      rcases Nat.eq_or_lt_of_le hle with heq | hlt'
      · simp only [candidate, heq]
        exact Network.le_of_covers hq
      · have hle' := ha.get_le hlt' (by simpa using hi)
        exact Network.le_trans (by simpa using hle') (Network.le_of_covers hq)
    simp only [Network.le, bne_iff_ne, ne_eq] at hcq
    exact hcq (by simpa using hgt)
  | case3 low high hh hlt middle hm candidate hc hgt ih =>
    -- The candidate stands between the network we look for and the query, or before both.
    refine ih ?_ hhigh
    apply Nat.lt_of_not_le
    intro hle
    rcases Nat.eq_or_lt_of_le hle with heq | hlt'
    · subst heq
      exact hc hq
    · have hcq : candidate.le query = true := by
        simp only [Network.le, bne_iff_ne, ne_eq]
        simpa using hgt
      have hord := ha.get_le hlt' (by simpa using hm)
      have hdis := ha.get_not_covers hlt' (by simpa using hm)
      have hcov := Network.covers_of_between (by simpa using hord) hcq hq
      simp only [Array.getElem_toList] at hdis
      rw [hdis] at hcov
      cases hcov
  | case4 low high hh hlt => omega

/-! ## Searching a list that is arranged -/

theorem find?_eq_some_iff {rules : NetworkRules} (ha : Arranged rules.toList) {query n : Network} :
    rules.find? query = some n ↔ n ∈ rules.toList ∧ n.covers query = true := by
  constructor
  · intro h
    have := mem_of_bisect h
    exact ⟨Array.mem_toList_iff.mpr this.1, this.2⟩
  · rintro ⟨hn, hc⟩
    obtain ⟨i, hi, rfl⟩ := List.getElem_of_mem hn
    simp only [toList, Array.getElem_toList] at *
    exact bisect_eq_of_covers ha hi hc (Nat.le_refl _) (Nat.zero_le _) hi

theorem find?_self {rules : NetworkRules} (ha : Arranged rules.toList) {n : Network}
    (hn : n ∈ rules.toList) : rules.find? n = some n :=
  (find?_eq_some_iff ha).mpr ⟨hn, Network.covers_refl n⟩

theorem find?_ne_self_iff {rules : NetworkRules} (ha : Arranged rules.toList) {n : Network} :
    rules.find? n ≠ some n ↔ n ∉ rules.toList := by
  constructor
  · exact fun hne hn => hne (find?_self ha hn)
  · exact fun hn hf => hn ((find?_eq_some_iff ha).mp hf).1

/-! ## Sorting before the search -/

theorem isSorted_sort (rules : NetworkRules) : rules.sort.1.isSorted = true := by
  unfold sort
  split
  · next h => exact h
  · rfl

theorem sort_arranged {rules : NetworkRules} (h : rules.isSorted = true → Arranged rules.toList) :
    Arranged rules.sort.1.toList := by
  unfold sort
  split
  · next hs => exact h hs
  · exact arrange_arranged _

theorem sort_represents {rules : NetworkRules} {nets : List Network}
    (h : Represents nets rules.toList) : Represents nets rules.sort.1.toList := by
  unfold sort
  split
  · exact h
  · exact h.arrange

theorem mem_of_mem_sort {rules : NetworkRules} {n : Network} (h : n ∈ rules.sort.1.toList) :
    n ∈ rules.toList := by
  unfold sort at h
  split at h
  · exact h
  · exact mem_of_mem_arrange h

theorem mem_sort_of_none_dropped {rules : NetworkRules} (h : rules.sort.2 = 0) {n : Network}
    (hn : n ∈ rules.toList) : n ∈ rules.sort.1.toList := by
  unfold sort at h ⊢
  split at h
  · next hs =>
    rw [if_pos hs]
    exact hn
  · next hs =>
    rw [if_neg hs]
    have hle := length_arrange_le rules.nets.toList
    have hsize : rules.nets.size = rules.nets.toList.length := rfl
    simp only [hsize] at h
    exact mem_arrange_of_length_eq (by omega) hn

theorem toList_ofList (nets : List Network) :
    (ofList nets).toList = arrange (nets.map Network.truncate) := rfl

theorem find?_ofList_eq_some_iff (nets : List Network) (query n : Network) :
    (ofList nets).find? query = some n ↔ IsBroadest nets query n := by
  have ha : Arranged (ofList nets).toList := arrange_arranged _
  rw [find?_eq_some_iff ha, toList_ofList]
  exact (represents_map nets).arrange.covers_iff (arrange_arranged _)

theorem covers_eq_any {rules : NetworkRules} {nets : List Network} (ha : Arranged rules.toList)
    (h : Represents nets rules.toList) (query : Network) :
    rules.covers query = nets.any fun n => n.covers query := by
  rw [Bool.eq_iff_iff, covers, Option.isSome_iff_exists, List.any_eq_true]
  constructor
  · rintro ⟨n, hn⟩
    obtain ⟨hmem, hc⟩ := (find?_eq_some_iff ha).mp hn
    obtain ⟨m, hm, rfl⟩ := h.given n hmem
    rw [Network.covers_truncate_left] at hc
    exact ⟨m, hm, hc⟩
  · rintro ⟨m, hm, hc⟩
    obtain ⟨k, hk, hkm⟩ := h.covered m hm
    exact ⟨k, (find?_eq_some_iff ha).mpr ⟨hk, Network.covers_trans hkm hc⟩⟩

theorem covers_ofList (nets : List Network) (query : Network) :
    (ofList nets).covers query = nets.any fun n => n.covers query := by
  have ha : Arranged (ofList nets).toList := arrange_arranged _
  have hrep : Represents nets (ofList nets).toList := (represents_map nets).arrange
  exact covers_eq_any ha hrep query

/-- The search of networks given in any order finds the broadest that covers the query, and finds
one exactly when a scan of all of them does.  The two questions for a yes or no say the same. -/
theorem ofList_search (nets : List Network) (query : Network) :
    (∀ n, (ofList nets).find? query = some n ↔ IsBroadest nets query n) ∧
      ((ofList nets).find? query).isSome = (scan? nets query).isSome ∧
      ((ofList nets).covers query = true ↔ ∃ n ∈ nets, n.covers query = true) ∧
      ∀ a : Address, (ofList nets).coversAddress a = true ↔
        ∃ n ∈ nets, n.family = a.family ∧ n.first ≤ a.number ∧ a.number ≤ n.last := by
  refine ⟨find?_ofList_eq_some_iff nets query, ?_, ?_, ?_⟩
  · have h := covers_ofList nets query
    unfold covers at h
    rw [h, scan?, Bool.eq_iff_iff, List.find?_isSome, List.any_eq_true]
  · rw [covers_ofList, List.any_eq_true]
  · intro a
    rw [coversAddress, covers_ofList, List.any_eq_true]
    simp only [Network.covers_host]

end NetworkRules

end TagRules
