import Mathlib.Algebra.Group.Nat.Defs
import TagRules.Wire.Varint

/-
  Numbers of variable length are read back, and are written as short as can be.

  A reader takes one byte at a time, and there are two kinds of bytes: the last one of a
  number (`readVarintWithin_last`) and any other (`readVarintWithin_more`);
  `readVarintWithin_cases` says that a number that is read begins with one of them.  From
  these:
    1. `readVarint_writeVarint` — a number of sixty-four bits is read from what was
       written for it, whatever follows;
    2. `readVarint_lt` — no larger number is ever read;
    3. `length_writeVarint_of_read` — a number that was read is written with no more
       bytes than it was read from, which need not have been written by us and may begin
       with a longer form of the number than it has to be;
    4. `length_writeVarint_mul` — a number at most so many times as large takes at most
       so many times as many bytes.
-/

namespace TagRules.Wire

open Text

theorem toNat_ofNat_byte {n : Nat} (h : n < 256) : (UInt8.ofNat n).toNat = n := by
  rw [UInt8.toNat_ofNat', Nat.mod_eq_of_lt h]

theorem byte_lt_iff {b : UInt8} : b < 128 ↔ b.toNat < 128 := UInt8.lt_iff_toNat_lt

theorem writeVarint_small {n : Nat} (h : n < 128) : writeVarint n = [UInt8.ofNat n] := by
  rw [writeVarint, if_pos h]

theorem writeVarint_large {n : Nat} (h : 128 ≤ n) :
    writeVarint n = UInt8.ofNat (n % 128 + 128) :: writeVarint (n / 128) := by
  rw [writeVarint, if_neg (Nat.not_lt.mpr h)]

theorem length_writeVarint_pos (n : Nat) : 0 < (writeVarint n).length := by
  rw [writeVarint]
  split <;> exact Nat.zero_lt_succ _

/-! ## One byte -/

/-- The last byte of a number is the number. -/
theorem readVarintWithin_last {top more n : Nat} {rest : Bytes} (hn : n < 128)
    (htop : more = 0 → n ≤ top) :
    readVarintWithin top (more + 1) (UInt8.ofNat n :: rest) = some (n, rest) := by
  have hb : (UInt8.ofNat n).toNat = n := toNat_ofNat_byte (by omega)
  have hfits : ¬ (more = 0 && top < n : Bool) = true := by
    intro h
    simp only [Bool.and_eq_true, decide_eq_true_eq] at h
    exact Nat.not_lt.mpr (htop h.1) h.2
  rw [readVarintWithin, if_pos (byte_lt_iff.mpr (hb.symm ▸ hn)), hb, if_neg hfits]

theorem readVarintWithin_more {top more low : Nat} {rest : Bytes} (hlow : low < 128) :
    readVarintWithin top (more + 1) (UInt8.ofNat (low + 128) :: rest) =
      (readVarintWithin top more rest).map fun (high, left) => (high * 128 + low, left) := by
  have hb : (UInt8.ofNat (low + 128)).toNat = low + 128 := toNat_ofNat_byte (by omega)
  have hhigh : ¬ UInt8.ofNat (low + 128) < 128 := by
    rw [byte_lt_iff, hb]
    exact Nat.not_lt.mpr (Nat.le_add_left _ _)
  rw [readVarintWithin, if_neg hhigh, hb, Nat.add_sub_cancel]

theorem readVarintWithin_cases {top more n : Nat} {bytes left : Bytes}
    (h : readVarintWithin top (more + 1) bytes = some (n, left)) :
    (∃ b : UInt8, bytes = b :: left ∧ n < 128 ∧ (more = 0 → n ≤ top)) ∨
      ∃ (b : UInt8) (rest : Bytes) (high low : Nat), bytes = b :: rest ∧ low < 128 ∧
        n = high * 128 + low ∧ readVarintWithin top more rest = some (high, left) := by
  cases bytes with
  | nil => cases h
  | cons b rest =>
    rw [readVarintWithin] at h
    split at h
    · next hlow =>
      split at h
      · cases h
      · next hfits =>
        cases h
        simp only [Bool.and_eq_true, decide_eq_true_eq] at hfits
        exact .inl ⟨b, rfl, byte_lt_iff.mp hlow, fun hmore => by omega⟩
    · simp only [Option.map_eq_some_iff, Prod.mk.injEq, Prod.exists] at h
      obtain ⟨high, left', hr, rfl, rfl⟩ := h
      have := b.toNat_lt
      exact .inr ⟨b, rest, high, b.toNat - 128, rfl, by omega, rfl, hr⟩

/-! ## Reading what was written -/

theorem readVarintWithin_writeVarint {top more n : Nat} (htop : top < 128)
    (hn : n < (top + 1) * 128 ^ more) (rest : Bytes) :
    readVarintWithin top (more + 1) (writeVarint n ++ rest) = some (n, rest) := by
  induction more generalizing n with
  | zero =>
    have hle : n ≤ top := by omega
    rw [writeVarint_small (by omega)]
    exact readVarintWithin_last (by omega) fun _ => hle
  | succ more ih =>
    rcases Nat.lt_or_ge n 128 with hsmall | hlarge
    · rw [writeVarint_small hsmall]
      exact readVarintWithin_last hsmall fun h => absurd h (Nat.succ_ne_zero more)
    · have hhigh : n / 128 < (top + 1) * 128 ^ more := by
        rw [Nat.div_lt_iff_lt_mul (by omega), Nat.mul_assoc, ← Nat.pow_succ]
        exact hn
      rw [writeVarint_large hlarge, List.cons_append,
        readVarintWithin_more (Nat.mod_lt n (by omega)), ih hhigh]
      simp only [Option.map_some, Nat.div_add_mod']

theorem readVarint_writeVarint {n : Nat} (h : n < 2 ^ 64) (rest : Bytes) :
    readVarint (writeVarint n ++ rest) = some (n, rest) :=
  readVarintWithin_writeVarint (by omega) (by omega) rest

/-! ## What can be read -/

theorem readVarintWithin_lt {top more n : Nat} {bytes left : Bytes} (htop : top < 128)
    (h : readVarintWithin top (more + 1) bytes = some (n, left)) :
    n < (top + 1) * 128 ^ more := by
  induction more generalizing bytes n with
  | zero =>
    obtain ⟨b, -, -, hle⟩ | ⟨b, rest, high, low, -, -, -, hr⟩ := readVarintWithin_cases h
    · have := hle rfl
      omega
    · cases hr
  | succ more ih =>
    have hroom : (top + 1) * 128 ^ (more + 1) = (top + 1) * 128 ^ more * 128 := by
      rw [Nat.pow_succ, Nat.mul_assoc]
    obtain ⟨b, -, hlt, -⟩ | ⟨b, rest, high, low, -, hlow, rfl, hr⟩ := readVarintWithin_cases h
    · have : 0 < (top + 1) * 128 ^ more := Nat.mul_pos (by omega) (Nat.pow_pos (by omega))
      omega
    · have := ih hr
      omega

theorem readVarint_lt {bytes left : Bytes} {n : Nat} (h : readVarint bytes = some (n, left)) :
    n < 2 ^ 64 := Nat.lt_of_lt_of_le (readVarintWithin_lt (by omega) h) (by omega)

/-! ## How many bytes a number takes -/

theorem length_writeVarint_low (high : Nat) {low : Nat} (h : low < 128) :
    (writeVarint (high * 128 + low)).length ≤ (writeVarint high).length + 1 := by
  rcases Nat.lt_or_ge (high * 128 + low) 128 with hsmall | hlarge
  · rw [writeVarint_small hsmall]
    exact Nat.le_add_left _ _
  · have hdiv : (high * 128 + low) / 128 = high := by omega
    exact Nat.le_of_eq (by rw [writeVarint_large hlarge, hdiv, List.length_cons])

theorem length_writeVarint_of_readWithin {top more n : Nat} {bytes left : Bytes}
    (h : readVarintWithin top more bytes = some (n, left)) :
    (writeVarint n).length + left.length ≤ bytes.length := by
  induction more generalizing bytes n with
  | zero => cases h
  | succ more ih =>
    obtain ⟨b, rfl, hlt, -⟩ | ⟨b, rest, high, low, rfl, hlow, rfl, hr⟩ := readVarintWithin_cases h
    · exact Nat.le_of_eq (by
        rw [writeVarint_small hlt, List.length_singleton, List.length_cons, Nat.add_comm])
    · have hwritten := length_writeVarint_low high hlow
      have := ih hr
      rw [List.length_cons]
      omega

theorem length_writeVarint_of_read {bytes left : Bytes} {n : Nat}
    (h : readVarint bytes = some (n, left)) :
    (writeVarint n).length + left.length ≤ bytes.length := length_writeVarint_of_readWithin h

theorem length_writeVarint_le_iff {n k : Nat} :
    (writeVarint n).length ≤ k + 1 ↔ n < 128 ^ (k + 1) := by
  induction k generalizing n with
  | zero =>
    rcases Nat.lt_or_ge n 128 with hsmall | hlarge
    · simp [writeVarint_small hsmall, hsmall]
    · have := length_writeVarint_pos (n / 128)
      rw [writeVarint_large hlarge, List.length_cons]
      omega
  | succ k ih =>
    rcases Nat.lt_or_ge n 128 with hsmall | hlarge
    · have hpow : 128 ≤ 128 ^ (k + 1 + 1) := Nat.le_self_pow (by omega) 128
      rw [writeVarint_small hsmall, List.length_singleton]
      exact iff_of_true (by omega) (Nat.lt_of_lt_of_le hsmall hpow)
    · rw [writeVarint_large hlarge, List.length_cons, Nat.add_le_add_iff_right, ih,
        Nat.div_lt_iff_lt_mul (by omega), ← Nat.pow_succ]

theorem length_writeVarint_mul {k m n : Nat} (hk : 0 < k) (h : m ≤ k * n) :
    (writeVarint m).length ≤ k * (writeVarint n).length := by
  obtain ⟨j, rfl⟩ := Nat.exists_eq_succ_of_ne_zero (Nat.pos_iff_ne_zero.mp hk)
  obtain ⟨l, hl⟩ :=
    Nat.exists_eq_succ_of_ne_zero (Nat.pos_iff_ne_zero.mp (length_writeVarint_pos n))
  have hn : n < 128 ^ (l + 1) := length_writeVarint_le_iff.mp (Nat.le_of_eq hl)
  have hj : j + 1 ≤ 128 ^ j := Nat.lt_pow_self (by omega)
  have hm : m < 128 ^ (j + l + 1) :=
    calc m ≤ (j + 1) * n := h
      _ < (j + 1) * 128 ^ (l + 1) := Nat.mul_lt_mul_of_pos_left hn hk
      _ ≤ 128 ^ j * 128 ^ (l + 1) := Nat.mul_le_mul_right _ hj
      _ = 128 ^ (j + l + 1) := by rw [← Nat.pow_add, Nat.add_assoc]
  calc (writeVarint m).length ≤ j + l + 1 := length_writeVarint_le_iff.mpr hm
    _ ≤ (j + 1) * (l + 1) := by
      rw [Nat.succ_mul, Nat.mul_succ]
      omega
    _ = (j + 1) * (writeVarint n).length := by rw [hl]

end TagRules.Wire
