import Mathlib.Data.List.Induction
import Mathlib.Logic.Function.Iterate
import TagRules.Proofs.Text.Case
import TagRules.Tag

/-
  Capital letters stay as they are, and so does the canonical form of a tag.

  A letter may have up to three capitals, and some letters are neither small nor capital.  What
  the capital forms are made of has no other capital form and is not blank.  The two sets
  of code points are disjoint, which is seen from their masks: as numbers with a bit for every
  code point they have no bit in common (`capitalCodes_disjoint`).

  So a text in capital letters stays one (`upper_upper`), and if it had no blanks at its ends
  it still has none (`trim_upper`).  Both together make one normalization of a tag as good as
  several (`Tag.normalize_normalize`).
-/

namespace TagRules

namespace Text

open Unicode

/-! ## Masks -/

/-- The number with bits at some places. -/
def mask (places : List Nat) : Nat := places.foldr (fun n bits => bits ||| 1 <<< n) 0

theorem testBit_mask (places : List Nat) (n : Nat) :
    (mask places).testBit n = decide (n ∈ places) := by
  induction places with
  | nil => exact Nat.zero_testBit n
  | cons first rest ih =>
    rw [mask, List.foldr_cons, ← mask, Nat.testBit_or, ih, Nat.one_shiftLeft, Nat.testBit_two_pow,
      Bool.or_comm]
    simp only [List.mem_cons, Bool.decide_or, eq_comm]

/-- Lists whose masks have no bit in common have no member in common. -/
theorem notMem_of_mask {xs ys : List Nat} (h : mask xs &&& mask ys = 0) {n : Nat} (hx : n ∈ xs) :
    n ∉ ys := by
  have hbit : (mask xs &&& mask ys).testBit n = false := by rw [h, Nat.zero_testBit]
  rw [Nat.testBit_and, testBit_mask, testBit_mask] at hbit
  simpa [hx] using hbit

/-! ## Code points -/

/-- The code points that have another capital form. -/
def smallCodes : List Nat := longCapitals.map Prod.fst ++ capitalRuns.flatMap CaseRun.members

/-- The code points that capital forms are made of. -/
def capitalCodes : List Nat :=
  longCapitals.flatMap Prod.snd ++ capitalRuns.flatMap fun run => run.members.map run.apply

/-- The code points of blanks. -/
def blankCodes : List Nat :=
  [0x9, 0xA, 0xB, 0xC, 0xD, 0x20, 0x85, 0xA0, 0x1680, 0x2000, 0x2001, 0x2002, 0x2003, 0x2004,
    0x2005, 0x2006, 0x2007, 0x2008, 0x2009, 0x200A, 0x2028, 0x2029, 0x202F, 0x205F, 0x3000]

/-- What capital forms are made of has no other capital form and is not blank. -/
theorem capitalCodes_disjoint : mask capitalCodes &&& mask (smallCodes ++ blankCodes) = 0 := by
  decide +kernel

theorem isValidChar_of_capitalCodes : ∀ n ∈ capitalCodes, n.isValidChar := by
  decide +kernel

theorem mem_members_of_covers {run : CaseRun} {n : Nat} (h : run.covers n = true) :
    n ∈ run.members := by
  simp only [CaseRun.covers, Bool.and_eq_true, decide_eq_true_eq, beq_iff_eq] at h
  obtain ⟨⟨hfirst, hlast⟩, hstep⟩ := h
  have hle : (n - run.first) / run.step ≤ (run.last - run.first) / run.step :=
    Nat.div_le_div_right (Nat.sub_le_sub_right hlast run.first)
  refine List.mem_map.mpr ⟨(n - run.first) / run.step, ?_, ?_⟩
  · exact List.mem_range.mpr (Nat.lt_succ_of_le hle)
  · rw [Nat.div_mul_cancel (Nat.dvd_of_mod_eq_zero hstep)]
    exact Nat.add_sub_cancel' hfirst

theorem mem_blankCodes {c : Char} (h : isBlank c = true) : c.toNat ∈ blankCodes := by
  have hle : ∀ x y : Char, x ≤ y ↔ x.toNat ≤ y.toNat := fun _ _ => UInt32.le_iff_toNat_le
  simp only [isBlank, Bool.or_eq_true, Bool.and_eq_true, decide_eq_true_eq, beq_iff_eq, hle,
    ← Char.toNat_inj, Char.reduceToNat] at h
  simp only [blankCodes, List.mem_cons, List.not_mem_nil, or_false]
  omega

/-! ## Capital forms -/

variable {c d : Char}

theorem capital_of_notMem (h : c.toNat ∉ smallCodes) : capital c = [c] := by
  obtain ⟨hlong, hruns⟩ := not_or.mp fun hmem => h (List.mem_append.mpr hmem)
  have hlookup : longCapitals.lookup c.toNat = none := by
    refine List.lookup_eq_none_iff.mpr fun entry hentry => ?_
    exact bne_iff_ne.mpr fun heq => hlong (List.mem_map.mpr ⟨entry, hentry, heq.symm⟩)
  have hfind : capitalRuns.find? (·.covers c.toNat) = none := by
    refine List.find?_eq_none.mpr fun run hrun hcovers => hruns ?_
    exact List.mem_flatMap.mpr ⟨run, hrun, mem_members_of_covers hcovers⟩
  rw [capital, hlookup, throughRuns, hfind]

theorem capital_cases (c : Char) :
    capital c = [c] ∨ ∀ d ∈ capital c, d.toNat ∈ capitalCodes := by
  have hcode : ∀ n ∈ capitalCodes, (Char.ofNat n).toNat ∈ capitalCodes := by
    intro n hn
    rwa [toNat_ofNat_of_valid (isValidChar_of_capitalCodes n hn)]
  unfold capital throughRuns
  split
  · next codes hlookup =>
    obtain ⟨before, after, heq, -⟩ := List.lookup_eq_some_iff.mp hlookup
    have hmem : (c.toNat, codes) ∈ longCapitals := by
      rw [heq]
      exact List.mem_append_right before List.mem_cons_self
    refine .inr (List.forall_mem_map.mpr fun n hn => hcode n ?_)
    exact List.mem_append_left _ (List.mem_flatMap.mpr ⟨_, hmem, hn⟩)
  · split
    · next run hfind =>
      have hcovers : run.covers c.toNat = true := by simpa using List.find?_some hfind
      refine .inr (List.forall_mem_singleton.mpr (hcode _ (List.mem_append_right _ ?_)))
      exact List.mem_flatMap.mpr
        ⟨run, List.mem_of_find?_eq_some hfind, List.mem_map_of_mem (mem_members_of_covers hcovers)⟩
    · exact .inl rfl

theorem capital_of_mem_capitalCodes (h : d.toNat ∈ capitalCodes) :
    capital d = [d] ∧ isBlank d = false := by
  have hnot := notMem_of_mask capitalCodes_disjoint h
  obtain ⟨hsmall, hblank⟩ := not_or.mp fun hmem => hnot (List.mem_append.mpr hmem)
  exact ⟨capital_of_notMem hsmall, Bool.eq_false_iff.mpr fun hb => hblank (mem_blankCodes hb)⟩

theorem capital_capital (h : d ∈ capital c) : capital d = [d] := by
  rcases capital_cases c with hself | hcapitals
  · obtain rfl : d = c := List.mem_singleton.mp (hself ▸ h)
    exact hself
  · exact (capital_of_mem_capitalCodes (hcapitals d h)).1

theorem isBlank_capital (hc : isBlank c = false) (h : d ∈ capital c) : isBlank d = false := by
  rcases capital_cases c with hself | hcapitals
  · obtain rfl : d = c := List.mem_singleton.mp (hself ▸ h)
    exact hc
  · exact (capital_of_mem_capitalCodes (hcapitals d h)).2

theorem capital_ne_nil (c : Char) : capital c ≠ [] := by
  unfold capital
  split
  · next codes hlookup =>
    have hall : ∀ entry ∈ longCapitals, entry.2 ≠ [] := by decide
    obtain ⟨before, after, heq, -⟩ := List.lookup_eq_some_iff.mp hlookup
    have hcodes := hall (c.toNat, codes) (by simp [heq])
    exact fun hnil => hcodes (List.map_eq_nil_iff.mp hnil)
  · exact List.cons_ne_nil _ _

/-! ## Texts -/

theorem upper_append (xs ys : List Char) : upper (xs ++ ys) = upper xs ++ upper ys :=
  List.flatMap_append

theorem upper_eq_nil_iff {cs : List Char} : upper cs = [] ↔ cs = [] := by
  cases cs with
  | nil => exact iff_of_true rfl rfl
  | cons c rest =>
    refine iff_of_false (fun hnil => ?_) (List.cons_ne_nil c rest)
    exact capital_ne_nil c (List.append_eq_nil_iff.mp hnil).1

theorem upper_upper (cs : List Char) : upper (upper cs) = upper cs := by
  induction cs with
  | nil => rfl
  | cons c rest ih =>
    have hfixed : upper (capital c) = capital c :=
      (List.flatMap_congr fun d hd => capital_capital hd).trans (List.flatMap_singleton' _)
    rw [show upper (c :: rest) = capital c ++ upper rest from List.flatMap_cons, upper_append,
      hfixed, ih]

/-- A text without blanks at its ends has none in capital letters: what stands there is made of
its first and of its last character. -/
theorem trim_upper {cs : List Char} (h : trim cs = cs) : trim (upper cs) = upper cs := by
  apply trim_eq_self
  · intro d hd
    cases cs with
    | nil => cases hd
    | cons c rest =>
      have hfirst : (trim (c :: rest)).head? = some c := by rw [h, List.head?_cons]
      rw [show upper (c :: rest) = capital c ++ upper rest from List.flatMap_cons,
        List.head?_append_of_ne_nil _ (capital_ne_nil c)] at hd
      exact isBlank_capital (head?_trim hfirst) (List.mem_of_mem_head? hd)
  · intro d hd
    cases cs using List.reverseRec with
    | nil => cases hd
    | append_singleton init c =>
      have hlast : (trim (init ++ [c])).getLast? = some c := by rw [h, List.getLast?_concat]
      rw [upper_append, show upper [c] = capital c from List.flatMap_singleton ..,
        List.getLast?_append_of_ne_nil _ (capital_ne_nil c)] at hd
      exact isBlank_capital (getLast?_trim hlast) (List.mem_of_getLast? hd)

end Text

namespace Tag

open Text

theorem canonical_canonical (tag : List Char) : canonical (canonical tag) = canonical tag := by
  unfold canonical
  rw [trim_upper (trim_trim tag), upper_upper]

theorem normalize_normalize (tag : String) : normalize (normalize tag) = normalize tag := by
  unfold normalize
  rw [String.toList_ofList, canonical_canonical]

theorem normalize_iterate (k : Nat) (tag : String) : normalize^[k + 1] tag = normalize tag := by
  rw [Function.iterate_succ_apply, Function.iterate_fixed (normalize_normalize tag)]

theorem isAllBlank_normalize (tag : String) :
    isAllBlank (normalize tag).toList = isAllBlank tag.toList := by
  have hcanonical : ∀ cs, isAllBlank cs = true ↔ canonical cs = [] := fun cs =>
    isAllBlank_iff.trans upper_eq_nil_iff.symm
  rw [Bool.eq_iff_iff, hcanonical, hcanonical, normalize, String.toList_ofList,
    canonical_canonical]

end Tag

end TagRules
