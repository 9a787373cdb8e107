import Mathlib.Data.List.Induction
import Mathlib.Data.UInt
import TagRules.Proofs.Engine.Counters

/-
  What counters say of everything that was counted.

  Counters are changed by adding to one of them and by resetting a class.  `given` is what was
  added under a class and a name since the class was last reset.  A counter is there if anything
  was, be it only zero, and then it has the sum (`getElem?_run`), which is taken modulo 2 ^ 64.
  The listing of a class has its counters in the order of `Outranks`, which leaves no two of
  them tied because no name is there twice (`values_strict`).
-/

namespace TagRules.Counters

/-! ## Histories -/

inductive Change where
  | increment (cls : CountClass) (name : String) (delta : UInt64)
  | reset (cls : CountClass)
  deriving DecidableEq

def Change.apply (c : Counters) : Change → Counters
  | increment cls name delta => c.increment cls name delta
  | reset cls => c.reset cls

def run (changes : List Change) : Counters := changes.foldl Change.apply empty

/-- The changes after the last one that resets a class. -/
def sinceReset (cls : CountClass) (changes : List Change) : List Change :=
  (changes.reverse.takeWhile (· != .reset cls)).reverse

/-- What a change adds to a counter. -/
def Change.delta? (cls : CountClass) (name : String) : Change → Option UInt64
  | increment k other delta => if k = cls ∧ other = name then some delta else none
  | reset _ => none

/-- What was added to a counter since its class was last reset. -/
def given (changes : List Change) (cls : CountClass) (name : String) : List UInt64 :=
  (sinceReset cls changes).filterMap (Change.delta? cls name)

variable {c : Counters} {changes : List Change} {cls : CountClass} {name : String}

theorem given_reset (changes : List Change) (k cls : CountClass) (name : String) :
    given (changes ++ [.reset k]) cls name = if k = cls then [] else given changes cls name := by
  unfold given sinceReset
  rw [List.reverse_append, List.reverse_singleton, List.singleton_append, List.takeWhile_cons]
  by_cases h : k = cls
  · simp [h]
  · simp [h, Change.delta?]

theorem given_increment (changes : List Change) (k : CountClass) (other : String) (delta : UInt64)
    (cls : CountClass) (name : String) :
    given (changes ++ [.increment k other delta]) cls name =
      if k = cls ∧ other = name then given changes cls name ++ [delta]
      else given changes cls name := by
  unfold given sinceReset
  rw [List.reverse_append, List.reverse_singleton, List.singleton_append, List.takeWhile_cons,
    if_pos (by simp), List.reverse_cons, List.filterMap_append]
  by_cases h : k = cls ∧ other = name
  · simp [h, Change.delta?]
  · simp [h, Change.delta?]

/-! ## Values -/

theorem getElem?_reset (c : Counters) (k cls : CountClass) (name : String) :
    ((c.reset k).ofClass cls)[name]? = if k = cls then none else (c.ofClass cls)[name]? := by
  unfold reset
  rw [ofClass_withClass]
  by_cases h : cls = k
  · simp [h]
  · simp [h, Ne.symm h]

/-- A counter is there if anything was added to it, and has the sum.  By induction on the changes,
the last one first. -/
theorem getElem?_run (changes : List Change) (cls : CountClass) (name : String) :
    ((run changes).ofClass cls)[name]? =
      if given changes cls name = [] then none else some (given changes cls name).sum := by
  induction changes using List.reverseRecOn with
  | nil => cases cls <;> rfl
  | append_singleton changes change ih =>
    rw [run, List.foldl_append, ← run, List.foldl_cons, List.foldl_nil]
    cases change with
    | reset k =>
      rw [Change.apply, getElem?_reset, given_reset, ih]
      split <;> rfl
    | increment k other delta =>
      rw [Change.apply, getElem?_increment, given_increment]
      by_cases h : k = cls ∧ other = name
      · have hsum : (run changes).value cls name = (given changes cls name).sum := by
          rw [value, ih]
          split
          · next hnil => rw [hnil]; rfl
          · rfl
        rw [if_pos ⟨h.1.symm, h.2.symm⟩, if_pos h, hsum]
        simp
      · rw [if_neg fun hsame => h ⟨hsame.1.symm, hsame.2.symm⟩, if_neg h, ih]

theorem toNat_sum (words : List UInt64) :
    words.sum.toNat = (words.map UInt64.toNat).sum % 2 ^ 64 := by
  induction words with
  | nil => rfl
  | cons word rest ih =>
    rw [List.map_cons, List.sum_cons, List.sum_cons, UInt64.toNat_add, ih, Nat.add_mod_mod]

theorem value_run (changes : List Change) (cls : CountClass) (name : String) :
    (run changes).value cls name = (given changes cls name).sum := by
  rw [value, getElem?_run]
  split
  · next h => rw [h]; rfl
  · rfl

/-! ## Listings -/

/-- Whether a counter comes before another in a listing: it has the larger value or, where the
values are equal, the smaller name. -/
def Outranks (x y : String × UInt64) : Prop := y.2 < x.2 ∨ x.2 = y.2 ∧ x.1 < y.1

/-- The comparison by which a class is listed. -/
def rank (x y : String × UInt64) : Ordering := (compare y.2 x.2).then (compare x.1 y.1)

instance : Std.TransCmp rank :=
  inferInstanceAs (Std.TransCmp (compareLex (fun x y : String × UInt64 => compareOn Prod.snd y x)
    (compareOn Prod.fst)))

theorem precedes_iff {x y : String × UInt64} : precedes x y = true ↔ (rank x y).isLE = true := by
  unfold precedes rank
  cases (compare y.2 x.2).then (compare x.1 y.1) <;> decide

theorem outranks_of_precedes {x y : String × UInt64} (h : precedes x y = true)
    (hne : ¬compare x.1 y.1 = .eq) : Outranks x y := by
  have hrank : rank x y = .lt := by
    have hnot : rank x y ≠ .eq := fun heq => hne (Ordering.then_eq_eq.mp heq).2
    rw [precedes_iff] at h
    cases hxy : rank x y with
    | lt => rfl
    | eq => exact absurd hxy hnot
    | gt =>
      rw [hxy] at h
      cases h
  rcases Ordering.then_eq_lt.mp hrank with hvalue | ⟨hvalue, hname⟩
  · exact .inl (Std.compare_eq_lt.mp hvalue)
  · exact .inr ⟨(Std.compare_eq_iff_eq.mp hvalue).symm, compareOfLessAndEq_eq_lt.mp hname⟩

theorem values_pairwise (c : Counters) (cls : CountClass) :
    (c.values cls).Pairwise fun x y => ¬compare x.1 y.1 = .eq := by
  have hkeys := (c.ofClass cls).distinct_keys_toList
  refine (List.mergeSort_perm _ precedes).symm.pairwise hkeys ?_
  exact fun hne heq => hne (Std.OrientedCmp.eq_symm heq)

theorem values_strict (c : Counters) (cls : CountClass) : (c.values cls).Pairwise Outranks := by
  have hsorted : (c.values cls).Pairwise fun x y => precedes x y = true := by
    apply List.pairwise_mergeSort
    · intro x y z hxy hyz
      rw [precedes_iff] at *
      exact Std.TransCmp.isLE_trans hxy hyz
    · intro x y
      rw [Bool.or_eq_true, precedes_iff, precedes_iff]
      cases hxy : rank x y with
      | gt =>
        have hyx : rank y x = (rank x y).swap := Std.OrientedCmp.eq_swap
        rw [hxy] at hyx
        exact .inr (by rw [hyx]; rfl)
      | lt | eq => exact .inl rfl
  exact hsorted.imp₂ (fun _ _ => outranks_of_precedes) (c.values_pairwise cls)

theorem mem_values {c : Counters} {cls : CountClass} {name : String} {v : UInt64} :
    (name, v) ∈ c.values cls ↔ (c.ofClass cls)[name]? = some v := by
  rw [values, List.mem_mergeSort, Std.ExtTreeMap.mem_toList_iff_getElem?_eq_some]

/-- After any changes, a counter has the sum modulo 2 ^ 64 of what was added to it since its class
was last reset.  The listing of a class has every name to which anything was added since then, only
these, each once and with its value, the larger value first and the smaller name first where values
are equal. -/
theorem run_history (changes : List Change) (cls : CountClass) :
    let c := run changes
    (∀ name, (c.value cls name).toNat =
      ((given changes cls name).map UInt64.toNat).sum % 2 ^ 64) ∧
    (c.values cls).Pairwise Outranks ∧
    ((c.values cls).map Prod.fst).Nodup ∧
    ∀ name v, (name, v) ∈ c.values cls ↔
      given changes cls name ≠ [] ∧ v = c.value cls name := by
  intro c
  refine ⟨?_, c.values_strict cls, ?_, ?_⟩
  · intro name
    rw [value_run, toNat_sum]
  · rw [List.Nodup, List.pairwise_map]
    refine (c.values_pairwise cls).imp ?_
    exact fun hne hsame => hne (Std.compare_eq_iff_eq.mpr hsame)
  · intro name v
    rw [mem_values, getElem?_run, value_run]
    split
    · next hnil => simp [hnil]
    · next hne => simp [hne, eq_comm]

/-- A counter that comes round to zero is still listed, and so is one that nothing but zero was
added to; what was added before a reset is not. -/
example :
    let c := run [.increment .domain "old" 7, .reset .domain, .increment .domain "b" 0,
      .increment .domain "a" 0xFFFFFFFFFFFFFFFF, .increment .domain "a" 1, .increment .domain "c" 2]
    c.values .domain = [("c", 2), ("a", 0), ("b", 0)] := by
  cbv

end TagRules.Counters
