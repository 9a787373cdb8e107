import TagRules.Net.Network

/-
  Blocks of addresses: which covers which, and how the order of networks sees it.

  The blocks of one family are the nodes of a binary tree.  A network covers another
  of at least its length when the two agree on the leading bits of the first
  (`covers_iff`), so two networks that cover a third are one inside the other
  (`covers_of_common`).

  The order of networks walks that tree from the root, node before children:
    1. `le_total`, `le_trans` and `le_antisymm` — it is a total order on networks
       written with their first addresses;
    2. `le_of_covers` — a network comes before everything inside it;
    3. `covers_of_between` — and nothing else comes in between: what stands after a
       network and before something inside it is inside it as well.
  The last is what a search by bisection needs, and what lets sorting compare each
  network with the one kept last and no other.
-/

namespace TagRules.Net.Network

/-! ## Sizes and first addresses -/

theorem size_pos (n : Network) : 0 < n.size := blockSize_pos _

theorem size_dvd_first (n : Network) : n.size ∣ n.first := Nat.dvd_sub_mod n.address.number

theorem size_dvd_size {a b : Network} (hf : a.family = b.family) (h : a.length ≤ b.length) :
    b.size ∣ a.size := by
  unfold size blockSize
  rw [hf]
  exact Nat.pow_dvd_pow 2 (by omega)

theorem length_le_of_size_le {a b : Network} (hf : a.family = b.family) (h : b.size ≤ a.size) :
    a.length ≤ b.length := by
  have ha : a.length ≤ a.family.bits := a.length_le
  have hb : b.length ≤ b.family.bits := b.length_le
  rw [hf] at ha
  unfold size blockSize at h
  rw [hf] at h
  have := (Nat.pow_le_pow_iff_right (by omega : 1 < 2)).mp h
  omega

theorem first_eq (n : Network) : n.first = n.size * (n.first / n.size) :=
  (Nat.mul_div_cancel' n.size_dvd_first).symm

theorem first_le_last (n : Network) : n.first ≤ n.last := Nat.le_add_right _ _

theorem last_lt (n : Network) : n.last < n.first + n.size := by
  have := n.size_pos
  unfold last
  omega

/-! ## Covering is agreement on the leading bits -/

theorem covers_iff_range {a b : Network} :
    a.covers b = true ↔ a.family = b.family ∧ a.first ≤ b.first ∧ b.last ≤ a.last := by
  simp [covers, and_assoc]

theorem covers_iff {a b : Network} :
    a.covers b = true ↔
      a.family = b.family ∧ a.length ≤ b.length ∧ b.first / a.size = a.first / a.size := by
  rw [covers_iff_range]
  have hpa := a.size_pos
  have hpb := b.size_pos
  constructor
  · rintro ⟨hf, hlo, hhi⟩
    refine ⟨hf, length_le_of_size_le hf ?_, ?_⟩
    · unfold last at hhi
      omega
    · have hlast := a.last_lt
      have hb := b.first_le_last
      apply Nat.le_antisymm
      · apply Nat.le_of_lt_succ
        rw [Nat.div_lt_iff_lt_mul hpa, Nat.succ_mul, Nat.mul_comm, ← a.first_eq]
        omega
      · exact Nat.div_le_div_right hlo
  · rintro ⟨hf, hl, hlead⟩
    have hlo : a.first ≤ b.first := by
      rw [a.first_eq, ← hlead]
      exact Nat.mul_div_le _ _
    refine ⟨hf, hlo, ?_⟩
    have hlt : b.first < a.first + a.size := by
      have := Nat.lt_mul_div_succ b.first hpa
      rw [hlead, Nat.mul_add, ← a.first_eq] at this
      omega
    -- The end of `a` is a multiple of the size of `b`, and so is the start of `b`.
    have hd : b.size ∣ a.first + a.size - b.first := by
      have hs := size_dvd_size hf hl
      exact Nat.dvd_sub (Nat.dvd_add (Nat.dvd_trans hs a.size_dvd_first) hs) b.size_dvd_first
    have := Nat.le_of_dvd (by omega) hd
    unfold last
    omega

theorem covers_refl (a : Network) : a.covers a = true := covers_iff.mpr ⟨rfl, Nat.le_refl _, rfl⟩

theorem covers_trans {a b c : Network} (hab : a.covers b = true) (hbc : b.covers c = true) :
    a.covers c = true := by
  rw [covers_iff_range] at *
  exact ⟨hab.1.trans hbc.1, Nat.le_trans hab.2.1 hbc.2.1, Nat.le_trans hbc.2.2 hab.2.2⟩

/-- Two networks that cover a third are one inside the other: the shorter covers the longer. -/
theorem covers_of_common {a b q : Network} (ha : a.covers q = true) (hb : b.covers q = true)
    (hl : a.length ≤ b.length) : a.covers b = true := by
  rw [covers_iff] at *
  obtain ⟨hfa, -, hqa⟩ := ha
  obtain ⟨hfb, -, hqb⟩ := hb
  have hf : a.family = b.family := hfa.trans hfb.symm
  refine ⟨hf, hl, ?_⟩
  obtain ⟨k, hk⟩ := size_dvd_size hf hl
  rw [hk, ← Nat.div_div_eq_div_mul] at hqa
  calc b.first / a.size = b.first / b.size / k := by rw [hk, Nat.div_div_eq_div_mul]
    _ = q.first / b.size / k := by rw [hqb]
    _ = a.first / a.size := by rw [hqa, hk]

theorem covers_host {n : Network} {a : Address} :
    n.covers (host a) = true ↔ n.family = a.family ∧ n.first ≤ a.number ∧ a.number ≤ n.last := by
  have hsize : (host a).size = 1 := by simp [size, host, family, blockSize]
  have hfirst : (host a).first = a.number := by
    unfold first
    rw [hsize, Nat.mod_one]
    rfl
  have hlast : (host a).last = a.number := by
    unfold last
    rw [hsize, hfirst, Nat.sub_self, Nat.add_zero]
  rw [covers_iff_range, hfirst, hlast]
  rfl

/-! ## Writing a network with its first address -/

@[simp]
theorem family_truncate (n : Network) : n.truncate.family = n.family := rfl

@[simp]
theorem size_truncate (n : Network) : n.truncate.size = n.size := rfl

@[simp]
theorem first_truncate (n : Network) : n.truncate.first = n.first := by
  show n.first - n.first % n.size = n.first
  rw [Nat.mod_eq_zero_of_dvd n.size_dvd_first, Nat.sub_zero]

@[simp]
theorem last_truncate (n : Network) : n.truncate.last = n.last := by
  simp only [last, size_truncate, first_truncate]

@[simp]
theorem covers_truncate_left (a b : Network) : a.truncate.covers b = a.covers b := by
  simp only [covers, family_truncate, first_truncate, last_truncate]

@[simp]
theorem covers_truncate_right (a b : Network) : a.covers b.truncate = a.covers b := by
  simp only [covers, family_truncate, first_truncate, last_truncate]

theorem truncate_eq_iff {a b : Network} :
    a.truncate = b.truncate ↔ a.family = b.family ∧ a.first = b.first ∧ a.length = b.length := by
  simp [truncate, base, and_assoc]

@[simp]
theorem truncate_truncate (n : Network) : n.truncate.truncate = n.truncate :=
  truncate_eq_iff.mpr ⟨rfl, n.first_truncate, rfl⟩

theorem truncate_eq_of_covers {a b : Network} (hab : a.covers b = true) (hba : b.covers a = true) :
    a.truncate = b.truncate := by
  have hl := (covers_iff.mp hab).2.1
  have hl' := (covers_iff.mp hba).2.1
  rw [covers_iff_range] at hab hba
  exact truncate_eq_iff.mpr ⟨hab.1, by omega, by omega⟩

/-! ## The order -/

theorem le_iff {a b : Network} :
    a.le b = true ↔
      (a.family = .v4 ∧ b.family = .v6) ∨
      (a.family = b.family ∧
        (a.first < b.first ∨ (a.first = b.first ∧ a.length ≤ b.length))) := by
  have hb : ∀ n : Network, n.base.family = n.family := fun _ => rfl
  have hn : ∀ n : Network, n.base.number = n.first := fun _ => rfl
  unfold le order Address.order
  rw [hb, hb, hn, hn]
  cases a.family <;> cases b.family <;>
    simp [Family.order, Ordering.then_eq_gt, Nat.compare_eq_gt] <;> omega

theorem le_iff_of_family {a b : Network} (hf : a.family = b.family) :
    a.le b = true ↔ a.first < b.first ∨ (a.first = b.first ∧ a.length ≤ b.length) := by
  rw [le_iff]
  constructor
  · rintro (⟨ha, hb⟩ | ⟨-, h⟩)
    · rw [ha, hb] at hf
      cases hf
    · exact h
  · exact fun h => .inr ⟨hf, h⟩

theorem family_of_between {a x b : Network} (hax : a.le x = true) (hxb : x.le b = true)
    (hab : a.family = b.family) : a.family = x.family := by
  rw [le_iff] at hax hxb
  cases ha : a.family <;> cases hx : x.family <;> simp_all

theorem le_total (a b : Network) : (a.le b || b.le a) = true := by
  rw [Bool.or_eq_true, le_iff, le_iff]
  cases ha : a.family <;> cases hb : b.family <;> simp <;> omega

theorem le_trans {a b c : Network} (hab : a.le b = true) (hbc : b.le c = true) :
    a.le c = true := by
  rw [le_iff] at *
  cases ha : a.family <;> cases hb : b.family <;> cases hc : c.family <;> simp_all <;> omega

theorem le_antisymm {a b : Network} (hab : a.le b = true) (hba : b.le a = true) :
    a.truncate = b.truncate := by
  rw [le_iff] at *
  rw [truncate_eq_iff]
  cases ha : a.family <;> cases hb : b.family <;> simp_all <;> omega

theorem le_of_covers {a b : Network} (h : a.covers b = true) : a.le b = true := by
  have hl := (covers_iff.mp h).2.1
  obtain ⟨hf, hlo, -⟩ := covers_iff_range.mp h
  exact le_iff.mpr (.inr ⟨hf, by omega⟩)

theorem covers_of_between {a x b : Network} (hax : a.le x = true) (hxb : x.le b = true)
    (hab : a.covers b = true) : a.covers x = true := by
  obtain ⟨hf, -, hlead⟩ := covers_iff.mp hab
  have hfx : a.family = x.family := family_of_between hax hxb hf
  rw [le_iff_of_family hfx] at hax
  rw [le_iff_of_family (hfx.symm.trans hf)] at hxb
  have hleadx : x.first / a.size = a.first / a.size := by
    apply Nat.le_antisymm
    · exact hlead ▸ Nat.div_le_div_right (by omega)
    · exact Nat.div_le_div_right (by omega)
  refine covers_iff.mpr ⟨hfx, ?_, hleadx⟩
  -- A shorter `x` would start on a multiple of its own larger size, hence where `a` starts, and
  -- then the order puts it before `a`.
  apply Nat.le_of_not_lt
  intro hlt
  have hd : a.size ∣ x.first :=
    Nat.dvd_trans (size_dvd_size hfx.symm (Nat.le_of_lt hlt)) x.size_dvd_first
  have heq : x.first = a.first := by
    rw [← Nat.mul_div_cancel' hd, hleadx, ← a.first_eq]
  omega

end TagRules.Net.Network
