import TagRules.Text.Digits

/-
  Numerals: reading the digits of a number gives the number back.

  `value_digits` holds for every radix from two to sixteen.  A written number has no
  other character than digits of its radix (`digit?_of_mem_digits`), and no zero
  before its first digit (`head?_digits_ne_zero`), which is why the strict readers
  take it too.
-/

namespace TagRules.Text

variable {radix : Nat}

theorem digit?_digitChar {d : Nat} (hd : d < radix) (hr : radix ≤ 16) :
    digit? radix (Nat.digitChar d) = some d := by
  have hex : ∀ d < 16, hexDigit? (Nat.digitChar d) = some d := by decide
  simp [digit?, hex d (Nat.lt_of_lt_of_le hd hr), hd]

theorem digits_eq (hr : 1 < radix) (n : Nat) :
    digits radix n =
      (if n < radix then [] else digits radix (n / radix)) ++ [Nat.digitChar (n % radix)] := by
  unfold digits
  rw [Nat.toDigits_eq_if hr]
  split
  · next h => rw [Nat.mod_eq_of_lt h, List.nil_append]
  · rfl

theorem digits_ne_nil (n : Nat) : digits radix n ≠ [] := Nat.toDigits_ne_nil

theorem length_digits_le {n k : Nat} (hr : 1 < radix) (hk : 0 < k) (h : n < Nat.pow radix k) :
    (digits radix n).length ≤ k := (Nat.length_toDigits_le_iff hr hk).mpr h

theorem value_append_one (cs : List Char) (c : Char) :
    value radix (cs ++ [c]) = value radix cs * radix + (digit? radix c).getD 0 := by
  simp [value]

/-- By induction on the number, one digit off the end at a time. -/
theorem value_digits (hr : 1 < radix) (hr' : radix ≤ 16) (n : Nat) :
    value radix (digits radix n) = n := by
  induction n using Nat.strongRecOn with
  | _ n ih =>
    have hd := digit?_digitChar (Nat.mod_lt n (Nat.lt_trans Nat.zero_lt_one hr)) hr'
    rw [digits_eq hr, value_append_one, hd, Option.getD_some]
    split
    · next h =>
      rw [Nat.mod_eq_of_lt h]
      simp [value]
    · next h =>
      have hlt : n / radix < n := Nat.div_lt_self (by omega) hr
      rw [ih (n / radix) hlt, Nat.mul_comm]
      exact Nat.div_add_mod n radix

theorem digit?_of_mem_digits (hr : 1 < radix) (hr' : radix ≤ 16) {n : Nat} {c : Char}
    (hc : c ∈ digits radix n) : (digit? radix c).isSome = true := by
  induction n using Nat.strongRecOn with
  | _ n ih =>
    rw [digits_eq hr, List.mem_append] at hc
    rcases hc with hc | hc
    · split at hc
      · cases hc
      · next h => exact ih (n / radix) (Nat.div_lt_self (by omega) hr) hc
    · rw [List.mem_singleton.mp hc,
        digit?_digitChar (Nat.mod_lt n (Nat.lt_trans Nat.zero_lt_one hr)) hr']
      rfl

theorem head?_digits_ne_zero (hr : 1 < radix) {n : Nat} (hn : 0 < n) :
    (digits radix n).head? ≠ some '0' := by
  induction n using Nat.strongRecOn with
  | _ n ih =>
    rw [digits_eq hr]
    split
    · next h =>
      rw [Nat.mod_eq_of_lt h]
      simp
      omega
    · next h =>
      rw [List.head?_append, Option.or_of_isSome (by simp [digits_ne_nil])]
      exact ih (n / radix) (Nat.div_lt_self (by omega) hr) (Nat.div_pos (by omega) (by omega))

theorem head?_digits_of_length (hr : 1 < radix) {n : Nat} (h : 1 < (digits radix n).length) :
    (digits radix n).head? ≠ some '0' := by
  apply head?_digits_ne_zero hr
  apply Nat.pos_of_ne_zero
  rintro rfl
  rw [digits_eq hr, if_pos (by omega)] at h
  exact absurd h (by simp)

end TagRules.Text
