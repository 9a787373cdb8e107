import TagRules.Proofs.Text.Blank
import TagRules.Text.Case

/-
  How long a text in small letters is, and whether it ends with a full stop.

  A character becomes one or two small letters, and how many does not depend on what stands
  around it, not even for the capital sigma.  So the parts of a text become as long as they
  are by themselves (`length_lower_append`), and no part is lost (`length_le_lower`).  A full
  stop stays one, and nothing else becomes one (`getLast?_lower`).
-/

namespace TagRules.Text

open Unicode

/-- How many small letters a character becomes. -/
def smallSize (c : Char) : Nat := if c = '\u0130' then 2 else 1

theorem smallSize_pos (c : Char) : 0 < smallSize c := by
  unfold smallSize
  split <;> decide

/-- The small form of a character in a text. -/
def smallIn (before : List Char) (c : Char) (rest : List Char) : List Char :=
  if c = 'Σ' then [if meetsCased before && !meetsCased rest then 'ς' else 'σ'] else small c

theorem lowerAfter_cons (before : List Char) (c : Char) (rest : List Char) :
    lowerAfter before (c :: rest) = smallIn before c rest ++ lowerAfter (c :: before) rest := rfl

theorem length_smallIn (before : List Char) (c : Char) (rest : List Char) :
    (smallIn before c rest).length = smallSize c := by
  unfold smallIn
  split
  · next hsigma =>
    subst hsigma
    rfl
  · unfold small smallSize
    split <;> rfl

/-! ## Length -/

theorem length_lowerAfter (before cs : List Char) :
    (lowerAfter before cs).length = (lower cs).length := by
  induction cs generalizing before with
  | nil => rfl
  | cons c rest ih =>
    show _ = (lowerAfter [] (c :: rest)).length
    rw [lowerAfter_cons, lowerAfter_cons, List.length_append, List.length_append, length_smallIn,
      length_smallIn, ih, ih [c]]

theorem length_lower_cons (c : Char) (rest : List Char) :
    (lower (c :: rest)).length = smallSize c + (lower rest).length := by
  show (lowerAfter [] (c :: rest)).length = _
  rw [lowerAfter_cons, List.length_append, length_smallIn, length_lowerAfter]

theorem length_lower_append (xs ys : List Char) :
    (lower (xs ++ ys)).length = (lower xs).length + (lower ys).length := by
  induction xs with
  | nil => exact (Nat.zero_add _).symm
  | cons c rest ih =>
    rw [List.cons_append, length_lower_cons, length_lower_cons, ih, Nat.add_assoc]

theorem length_le_lower (cs : List Char) : cs.length ≤ (lower cs).length := by
  induction cs with
  | nil => exact Nat.zero_le _
  | cons c rest ih =>
    have hpos := smallSize_pos c
    rw [length_lower_cons, List.length_cons]
    omega

theorem lowerAfter_ne_nil (before : List Char) {cs : List Char} (h : cs ≠ []) :
    lowerAfter before cs ≠ [] := by
  intro hnil
  have hlength := length_le_lower cs
  rw [← length_lowerAfter before, hnil, List.length_nil] at hlength
  exact h (List.length_eq_zero_iff.mp (Nat.le_zero.mp hlength))

/-- In small letters a text is longer than the text without blanks at its ends, by as much as the
blanks become. -/
theorem exists_length_trim (cs : List Char) : ∃ before after, before ++ trim cs ++ after = cs ∧
    (lower cs).length =
      (lower before).length + (lower (trim cs)).length + (lower after).length := by
  obtain ⟨before, after, heq⟩ := exists_trim cs
  refine ⟨before, after, heq, ?_⟩
  rw [← length_lower_append, ← length_lower_append, heq]

theorem length_lower_trim_le (cs : List Char) : (lower (trim cs)).length ≤ (lower cs).length := by
  obtain ⟨before, after, -, hlength⟩ := exists_length_trim cs
  omega

/-- A text that has no more small letters than without the blanks at its ends has none there. -/
theorem trim_eq_self_of_length_le {cs : List Char}
    (h : (lower cs).length ≤ (lower (trim cs)).length) : trim cs = cs := by
  obtain ⟨before, after, heq, hlength⟩ := exists_length_trim cs
  have hbefore : before.length = 0 := by
    have := length_le_lower before
    omega
  have hafter : after.length = 0 := by
    have := length_le_lower after
    omega
  rw [List.length_eq_zero_iff] at hbefore hafter
  rw [hbefore, hafter, List.append_nil] at heq
  exact heq

/-! ## Full stops -/

theorem toNat_ofNat_of_valid {n : Nat} (h : n.isValidChar) : (Char.ofNat n).toNat = n := by
  unfold Char.ofNat
  rw [dif_pos h]
  rfl

theorem throughRuns_ne_stop {run : CaseRun} (h : run ∈ smallRuns) (n : Nat) :
    Char.ofNat (run.apply n) ≠ '.' := by
  have himage : ∀ run ∈ smallRuns, '.'.toNat < run.image := by decide +kernel
  have hlt : '.'.toNat < run.apply n := Nat.lt_of_lt_of_le (himage run h) (Nat.le_add_right _ _)
  intro heq
  by_cases hvalid : (run.apply n).isValidChar
  · rw [← heq, toNat_ofNat_of_valid hvalid] at hlt
    exact Nat.lt_irrefl _ hlt
  · unfold Char.ofNat at heq
    rw [dif_neg hvalid] at heq
    exact absurd heq (by decide)

theorem throughRuns_eq_stop {c : Char} : throughRuns smallRuns c = '.' ↔ c = '.' := by
  constructor
  · intro h
    unfold throughRuns at h
    split at h
    · next run hfind => exact absurd h (throughRuns_ne_stop (List.mem_of_find?_eq_some hfind) _)
    · exact h
  · rintro rfl
    decide

theorem getLast?_smallIn (before : List Char) (c : Char) (rest : List Char) :
    (smallIn before c rest).getLast? = some '.' ↔ c = '.' := by
  unfold smallIn
  split
  · next hsigma =>
    subst hsigma
    split <;> decide
  · unfold small
    split
    · next hdotted =>
      subst hdotted
      decide
    · rw [List.getLast?_singleton, Option.some.injEq, throughRuns_eq_stop]

theorem getLast?_lowerAfter (before cs : List Char) :
    (lowerAfter before cs).getLast? = some '.' ↔ cs.getLast? = some '.' := by
  induction cs generalizing before with
  | nil => exact Iff.rfl
  | cons c rest ih =>
    rw [lowerAfter_cons]
    cases rest with
    | nil =>
      rw [show lowerAfter (c :: before) [] = [] from rfl, List.append_nil, getLast?_smallIn]
      simp
    | cons d more =>
      have hmore : lowerAfter (c :: before) (d :: more) ≠ [] :=
        lowerAfter_ne_nil _ (List.cons_ne_nil d more)
      rw [List.getLast?_append, Option.or_of_isSome (List.getLast?_isSome.mpr hmore), ih,
        List.getLast?_cons_cons]

theorem getLast?_lower (cs : List Char) :
    (lower cs).getLast? = some '.' ↔ cs.getLast? = some '.' := getLast?_lowerAfter [] cs

end TagRules.Text
