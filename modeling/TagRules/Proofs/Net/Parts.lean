import Mathlib.Data.List.Induction
import Mathlib.Data.Nat.Digits.Defs
import TagRules.Net.AddressText

/-
  Addresses in parts.

  The parts of an address put together again are its number (`ofParts_parts`), for
  every width that divides that of the family, and parts that fill the family are those of
  the number they make up (`parts_wrap`).  The parts that the written form leaves
  out are zeros (`elided_eq`), and the part after them is not (`elided_closed`): the run
  that is found need not be shown to be the longest for that.
-/

namespace TagRules.Net

namespace Address

theorem ofParts_append (width : Nat) (parts : List Nat) (part : Nat) :
    ofParts width (parts ++ [part]) = ofParts width parts * blockSize width + part := by
  simp [ofParts]

/-- By induction on how many of the highest parts are taken: together they are the leading bits. -/
theorem ofParts_leading (a : Address) (width count : Nat) (h : width * count ≤ a.family.bits) :
    ofParts width ((List.range count).map fun i =>
        a.number / blockSize (a.family.bits - width * (i + 1)) % blockSize width) =
      a.number / blockSize (a.family.bits - width * count) := by
  induction count with
  | zero =>
    rw [Nat.mul_zero, Nat.sub_zero, Nat.div_eq_of_lt a.number_lt]
    rfl
  | succ count ih =>
    have hle : width * count + width ≤ a.family.bits := h
    rw [List.range_succ, List.map_append, List.map_singleton, ofParts_append,
      ih (Nat.le_trans (Nat.le_add_right _ _) hle)]
    have hsize : blockSize (a.family.bits - width * count) =
        blockSize (a.family.bits - width * (count + 1)) * blockSize width := by
      unfold blockSize
      rw [Nat.pow_eq, Nat.pow_eq, Nat.pow_eq, ← Nat.pow_add, Nat.mul_succ]
      congr 1
      omega
    rw [hsize, ← Nat.div_div_eq_div_mul]
    exact Nat.div_add_mod' _ _

theorem ofParts_parts (a : Address) {width : Nat} (hd : width ∣ a.family.bits) :
    ofParts width (a.parts width) = a.number := by
  have hw : width * (a.family.bits / width) = a.family.bits := Nat.mul_div_cancel' hd
  have h := ofParts_leading a width (a.family.bits / width) (Nat.le_of_eq hw)
  rw [hw, Nat.sub_self, show blockSize 0 = 1 from rfl, Nat.div_one] at h
  exact h

theorem wrap_parts (a : Address) {width : Nat} (hd : width ∣ a.family.bits) :
    wrap a.family (ofParts width (a.parts width)) = a := by
  unfold wrap
  simp only [ofParts_parts a hd, Nat.mod_eq_of_lt a.number_lt]

theorem length_parts (a : Address) (width : Nat) :
    (a.parts width).length = a.family.bits / width := by simp [parts]

theorem lt_of_mem_parts {a : Address} {width part : Nat} (h : part ∈ a.parts width) :
    part < blockSize width := by
  obtain ⟨i, -, rfl⟩ := List.mem_map.mp h
  exact Nat.mod_lt _ (blockSize_pos width)

theorem ofParts_eq_ofDigits (width : Nat) (parts : List Nat) :
    ofParts width parts = Nat.ofDigits (blockSize width) parts.reverse := by
  induction parts using List.reverseRecOn with
  | nil => rfl
  | append_singleton parts part ih =>
    rw [ofParts_append, ih, List.reverse_append, List.reverse_singleton, List.singleton_append,
      Nat.ofDigits_cons, Nat.add_comm, Nat.mul_comm]

section

variable {width : Nat} {parts others : List Nat} (hw : 0 < width)
  (hb : ∀ part ∈ parts, part < blockSize width)

include hw hb

theorem ofParts_lt : ofParts width parts < blockSize (width * parts.length) := by
  have hlt := Nat.ofDigits_lt_base_pow_length (Nat.one_lt_two_pow (Nat.ne_of_gt hw))
    (l := parts.reverse) fun part hp => hb part (List.mem_reverse.mp hp)
  rw [List.length_reverse, ← Nat.pow_mul] at hlt
  rwa [ofParts_eq_ofDigits]

theorem ofParts_inj (hb' : ∀ part ∈ others, part < blockSize width)
    (hl : parts.length = others.length) (h : ofParts width parts = ofParts width others) :
    parts = others := by
  rw [ofParts_eq_ofDigits, ofParts_eq_ofDigits] at h
  have heq := Nat.ofDigits_inj_of_len_eq (Nat.one_lt_two_pow (Nat.ne_of_gt hw)) (by simpa using hl)
    (fun part hp => hb part (List.mem_reverse.mp hp))
    (fun part hp => hb' part (List.mem_reverse.mp hp)) h
  exact List.reverse_inj.mp heq

theorem parts_wrap {family : Family} (hl : width * parts.length = family.bits) :
    (wrap family (ofParts width parts)).parts width = parts := by
  have hd : width ∣ (wrap family (ofParts width parts)).family.bits := ⟨parts.length, hl.symm⟩
  have hnumber : ofParts width ((wrap family (ofParts width parts)).parts width) =
      ofParts width parts := by
    rw [ofParts_parts _ hd]
    exact Nat.mod_eq_of_lt (hl ▸ ofParts_lt hw hb)
  refine ofParts_inj hw (fun part hp => lt_of_mem_parts hp) hb ?_ hnumber
  rw [length_parts]
  exact Nat.div_eq_of_eq_mul_right hw hl.symm

end

theorem length_parts_v4 {a : Address} (h : a.family = .v4) : (a.parts 8).length = 4 := by
  rw [length_parts, h]
  rfl

theorem length_parts_v6 {a : Address} (h : a.family = .v6) : (a.parts 16).length = 8 := by
  rw [length_parts, h]
  rfl

end Address

/-! ## The parts that are left out -/

/-- A start and length within a list, with nothing but zeros between. -/
structure IsZeroRun (parts : List Nat) (run : Nat × Nat) : Prop where
  inside : run.1 + run.2 ≤ parts.length
  zeros : ∀ i, run.1 ≤ i → i < run.1 + run.2 → parts[i]? = some 0

namespace IsZeroRun

variable {parts : List Nat} {run : Nat × Nat}

theorem nil (parts : List Nat) : IsZeroRun parts (0, 0) :=
  ⟨Nat.zero_le _, fun _ _ h => absurd h (Nat.not_lt_zero _)⟩

theorem grow {place length : Nat} (h : IsZeroRun parts (place - length, length))
    (hl : length ≤ place) (hz : parts[place]? = some 0) :
    IsZeroRun parts (place - length, length + 1) := by
  obtain ⟨hplace, -⟩ := List.getElem?_eq_some_iff.mp hz
  constructor
  · show place - length + (length + 1) ≤ parts.length
    omega
  · intro i hlo hhi
    have hhi' : i < place - length + (length + 1) := hhi
    by_cases heq : i = place
    · rw [heq]
      exact hz
    · exact h.zeros i hlo (show i < place - length + length by omega)

theorem replicate_eq (h : IsZeroRun parts run) :
    parts.take run.1 ++ List.replicate run.2 0 ++ parts.drop (run.1 + run.2) = parts := by
  have hmid : (parts.drop run.1).take run.2 = List.replicate run.2 0 := by
    have hin := h.inside
    apply List.ext_getElem?
    intro i
    by_cases hi : i < run.2
    · rw [List.getElem?_take_of_lt hi, List.getElem?_drop, List.getElem?_replicate_of_lt hi]
      exact h.zeros _ (Nat.le_add_right _ _) (by omega)
    · rw [List.getElem?_eq_none (by simp; omega), List.getElem?_eq_none (by simp; omega)]
  rw [← hmid, ← List.drop_drop, List.append_assoc, List.take_append_drop, List.take_append_drop]

theorem shrink (h : IsZeroRun parts run) (hpos : 0 < run.2) :
    IsZeroRun parts (run.1 + 1, run.2 - 1) := by
  have hin := h.inside
  constructor
  · show run.1 + 1 + (run.2 - 1) ≤ parts.length
    omega
  · intro i hlo hhi
    have hlo' : run.1 + 1 ≤ i := hlo
    have hhi' : i < run.1 + 1 + (run.2 - 1) := hhi
    exact h.zeros i (by omega) (by omega)

theorem eraseIdx_eq (h : IsZeroRun parts run) (hpos : 0 < run.2) :
    parts.eraseIdx run.1 =
      parts.take run.1 ++ List.replicate (run.2 - 1) 0 ++ parts.drop (run.1 + run.2) := by
  have hin := h.inside
  have hrest : parts.drop (run.1 + 1) =
      List.replicate (run.2 - 1) 0 ++ parts.drop (run.1 + 1 + (run.2 - 1)) := by
    have heq := congrArg (List.drop (run.1 + 1)) (h.shrink hpos).replicate_eq
    rw [List.append_assoc, List.drop_left' (by simp; omega)] at heq
    exact heq.symm
  have hend : run.1 + 1 + (run.2 - 1) = run.1 + run.2 := by omega
  calc parts.eraseIdx run.1
      = parts.take run.1 ++ parts.drop (run.1 + 1) := List.eraseIdx_eq_take_drop_succ _ _
    _ = parts.take run.1 ++
        (List.replicate (run.2 - 1) 0 ++ parts.drop (run.1 + 1 + (run.2 - 1))) := by rw [← hrest]
    _ = parts.take run.1 ++ List.replicate (run.2 - 1) 0 ++ parts.drop (run.1 + run.2) := by
        rw [hend, List.append_assoc]

end IsZeroRun

/-- By induction on what is left of the list; the run that ends before it began `length` places
ago. -/
theorem longestZeros_isZeroRun {parts : List Nat} (left : List Nat) {place start length : Nat}
    {best : Nat × Nat} (hleft : parts.drop place = left) (hl : length ≤ place)
    (hstart : length ≠ 0 → start = place - length)
    (hrun : IsZeroRun parts (place - length, length)) (hbest : IsZeroRun parts best) :
    IsZeroRun parts (longestZeros place start length best left) := by
  induction left generalizing place start length best with
  | nil => exact hbest
  | cons part rest ih =>
    have hhead : parts[place]? = some part := by
      rw [← List.head?_drop, hleft, List.head?_cons]
    have hrest : parts.drop (place + 1) = rest := by
      rw [← List.drop_drop, hleft, List.drop_one, List.tail_cons]
    cases part with
    | zero =>
      have hgrown := hrun.grow hl hhead
      have hfrom : (if length = 0 then place else start) = place - length := by
        split
        · next h => rw [h, Nat.sub_zero]
        · next h => exact hstart h
      have hshift : place + 1 - (length + 1) = place - length := Nat.add_sub_add_right _ _ _
      simp only [longestZeros, hfrom]
      refine ih hrest (by omega) (fun _ => hshift.symm) (by rw [hshift]; exact hgrown) ?_
      split
      · exact hgrown
      · exact hbest
    | succ n =>
      -- The run ends here, and the next one is empty so far.
      have hinside := (List.getElem?_eq_some_iff.mp hhead).1
      simp only [longestZeros]
      refine ih hrest (Nat.zero_le _) (fun h => absurd rfl h) ?_ hbest
      exact ⟨hinside, fun i h h' => absurd (Nat.lt_of_le_of_lt h h') (Nat.lt_irrefl _)⟩

/-- By induction on what is left of the list; the run found so far ends here, or a part that is not
zero comes after it. -/
theorem longestZeros_closed {parts : List Nat} (left : List Nat) {place start length : Nat}
    {best : Nat × Nat} (hleft : parts.drop place = left) (hl : length ≤ place)
    (hstart : length ≠ 0 → start = place - length)
    (hbest : best = (place - length, length) ∨ parts[best.1 + best.2]? ≠ some 0) :
    parts[(longestZeros place start length best left).1 +
      (longestZeros place start length best left).2]? ≠ some 0 := by
  induction left generalizing place start length best with
  | nil =>
    show parts[best.1 + best.2]? ≠ some 0
    rcases hbest with rfl | hbest
    · rw [← List.head?_drop, show place - length + length = place by omega, hleft]
      exact nofun
    · exact hbest
  | cons part rest ih =>
    have hhead : parts[place]? = some part := by
      rw [← List.head?_drop, hleft, List.head?_cons]
    have hrest : parts.drop (place + 1) = rest := by
      rw [← List.drop_drop, hleft, List.drop_one, List.tail_cons]
    cases part with
    | zero =>
      have hfrom : (if length = 0 then place else start) = place - length := by
        split
        · next h => rw [h, Nat.sub_zero]
        · next h => exact hstart h
      have hshift : place + 1 - (length + 1) = place - length := Nat.add_sub_add_right _ _ _
      simp only [longestZeros, hfrom]
      refine ih hrest (by omega) (fun _ => hshift.symm) ?_
      -- The run goes on; it is the longest so far, or that one was over before.
      split
      · exact .inl (by rw [hshift])
      · next hlong =>
        refine .inr (hbest.resolve_left ?_)
        rintro rfl
        exact hlong (Nat.lt_succ_self length)
    | succ n =>
      simp only [longestZeros]
      refine ih hrest (Nat.zero_le _) (fun h => absurd rfl h) (.inr ?_)
      rcases hbest with rfl | hbest
      · rw [show place - length + length = place by omega, hhead]
        exact nofun
      · exact hbest

/-- The run of zeros that is left out in writing. -/
def elided (groups : List Nat) : Nat × Nat := longestZeros 0 0 0 (0, 0) groups

theorem elided_isZeroRun (groups : List Nat) : IsZeroRun groups (elided groups) :=
  longestZeros_isZeroRun groups List.drop_zero (Nat.zero_le _) (fun h => absurd rfl h)
    (IsZeroRun.nil groups) (IsZeroRun.nil groups)

theorem elided_closed (groups : List Nat) :
    groups[(elided groups).1 + (elided groups).2]? ≠ some 0 :=
  longestZeros_closed groups List.drop_zero (Nat.zero_le _) (fun h => absurd rfl h) (.inl rfl)

/-- What stands before and after the run makes up the groups, with zeros between. -/
theorem elided_eq (groups : List Nat) :
    groups.take (elided groups).1 ++ List.replicate (elided groups).2 0 ++
      groups.drop ((elided groups).1 + (elided groups).2) = groups :=
  (elided_isZeroRun groups).replicate_eq

theorem mem_of_mem_unelided {groups : List Nat} {g : Nat}
    (h : g ∈ groups.take (elided groups).1 ++
      groups.drop ((elided groups).1 + (elided groups).2)) : g ∈ groups := by
  rcases List.mem_append.mp h with h | h
  · exact List.mem_of_mem_take h
  · exact List.mem_of_mem_drop h

end TagRules.Net
