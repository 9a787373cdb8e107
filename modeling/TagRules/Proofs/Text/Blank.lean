import Mathlib.Data.List.DropRight
import TagRules.Text.Blank
import TagRules.Text.Digits

/-
  Trimming and cutting: text without blanks stays as it is, nothing is put in, and
  text is cut at the first separator, at all of them, or at each of them in turn
  (`mem_cuts`), the leftmost first (`findSome?_cuts`).  What trimming and dropping a full
  stop take away stood at the ends (`exists_trim`, `dropFinalStop_append`).
-/

namespace TagRules.Text

theorem isBlank_of_hexDigit? {c : Char} (h : (hexDigit? c).isSome = true) : isBlank c = false := by
  have hascii : ∀ n < 128, (hexDigit? (Char.ofNat n)).isSome = true →
      isBlank (Char.ofNat n) = false := by decide
  have hlt : c.toNat < 128 := by
    simp only [hexDigit?, Char.le_def, UInt32.le_iff_toNat_le] at h
    apply Nat.lt_of_not_le
    intro hle
    rw [if_neg, if_neg, if_neg] at h
    · cases h
    all_goals
      rintro ⟨-, h'⟩
      exact absurd (Nat.le_trans hle h') (by decide)
  have := hascii c.toNat hlt
  rw [Char.ofNat_toNat] at this
  exact this h

theorem dropWhile_isBlank {cs : List Char} (h : ∀ c ∈ cs, isBlank c = false) :
    cs.dropWhile isBlank = cs := by
  cases cs with
  | nil => rfl
  | cons c rest => rw [List.dropWhile_cons_of_neg (by simp [h c])]

theorem trim_of_no_blank {cs : List Char} (h : ∀ c ∈ cs, isBlank c = false) : trim cs = cs := by
  unfold trim trimEnd trimStart
  rw [dropWhile_isBlank h, dropWhile_isBlank (fun c hc => h c (List.mem_reverse.mp hc)),
    List.reverse_reverse]

theorem trim_append_blank {c : Char} (h : isBlank c = true) (cs : List Char) :
    trim (cs ++ [c]) = trim cs := by
  unfold trim trimEnd trimStart
  rw [List.dropWhile_append]
  split
  · next hnil =>
    rw [List.isEmpty_iff.mp hnil, List.dropWhile_cons_of_pos h]
    rfl
  · rw [List.reverse_append, List.reverse_singleton, List.singleton_append,
      List.dropWhile_cons_of_pos h]

theorem trim_append {c : Char} (hc : isBlank c = false) {rest : List Char}
    (hrest : ∀ d ∈ rest, isBlank d = false) (cs : List Char) :
    trim (cs ++ c :: rest) = trimStart cs ++ c :: rest := by
  have hstart : trimStart (cs ++ c :: rest) = trimStart cs ++ c :: rest := by
    unfold trimStart
    rw [List.dropWhile_append]
    split
    · next hnil =>
      rw [List.isEmpty_iff.mp hnil, List.dropWhile_cons_of_neg (by simp [hc])]
      rfl
    · rfl
  have hend : ∀ d ∈ (c :: rest).reverse, isBlank d = false := by
    intro d hd
    rcases List.mem_cons.mp (List.mem_reverse.mp hd) with rfl | hd
    · exact hc
    · exact hrest d hd
  unfold trim trimEnd
  rw [hstart, List.reverse_append, List.dropWhile_append, dropWhile_isBlank hend]
  rw [if_neg (by simp), ← List.reverse_append, List.reverse_reverse]

theorem exists_trim (cs : List Char) : ∃ before after, before ++ trim cs ++ after = cs := by
  refine ⟨cs.takeWhile isBlank, ((trimStart cs).reverse.takeWhile isBlank).reverse, ?_⟩
  have hend : trim cs ++ ((trimStart cs).reverse.takeWhile isBlank).reverse = trimStart cs := by
    unfold trim trimEnd
    rw [← List.reverse_append, List.takeWhile_append_dropWhile, List.reverse_reverse]
  rw [List.append_assoc, hend]
  exact List.takeWhile_append_dropWhile

theorem mem_of_mem_trim {c : Char} {cs : List Char} (h : c ∈ trim cs) : c ∈ cs := by
  unfold trim trimEnd trimStart at h
  have hstart := (List.dropWhile_sublist isBlank).subset (List.mem_reverse.mp h)
  exact (List.dropWhile_sublist isBlank).subset (List.mem_reverse.mp hstart)

theorem trimStart_cons {c : Char} (h : isBlank c = false) (rest : List Char) :
    trimStart (c :: rest) = c :: rest := List.dropWhile_cons_of_neg (by simp [h])

theorem trimStart_cases (cs : List Char) :
    trimStart cs = [] ∨ ∃ c rest, trimStart cs = c :: rest ∧ isBlank c = false := by
  cases h : trimStart cs with
  | nil => exact .inl rfl
  | cons c rest =>
    have hhead := List.head?_dropWhile_not isBlank cs
    rw [show cs.dropWhile isBlank = c :: rest from h] at hhead
    exact .inr ⟨c, rest, rfl, hhead⟩

theorem trimEnd_trimEnd (cs : List Char) : trimEnd (trimEnd cs) = trimEnd cs := by
  unfold trimEnd
  rw [List.reverse_reverse, List.dropWhile_idempotent]

theorem trimEnd_append {cs : List Char} (h : trimEnd cs ≠ []) (before : List Char) :
    trimEnd (before ++ cs) = before ++ trimEnd cs := by
  have hrest : cs.reverse.dropWhile isBlank ≠ [] := fun hnil => h (by rw [trimEnd, hnil]; rfl)
  unfold trimEnd
  rw [List.reverse_append, List.dropWhile_append, if_neg (by simpa using hrest),
    List.reverse_append, List.reverse_reverse]

theorem trimEnd_cons {c : Char} (h : isBlank c = false) (rest : List Char) :
    trimEnd (c :: rest) = c :: trimEnd rest := by
  unfold trimEnd
  rw [List.reverse_cons, List.dropWhile_append]
  split
  · next hnil =>
    rw [List.isEmpty_iff.mp hnil, List.dropWhile_cons_of_neg (by simp [h])]
    rfl
  · rw [List.reverse_append]
    rfl

theorem trim_trim (cs : List Char) : trim (trim cs) = trim cs := by
  unfold trim
  rcases trimStart_cases cs with hnil | ⟨c, rest, hcons, hc⟩
  · rw [hnil]
    rfl
  · rw [hcons, trimEnd_cons hc, trimStart_cons hc, trimEnd_cons hc, trimEnd_trimEnd]

theorem trim_cons_append {c : Char} (hc : isBlank c = false) {cs : List Char} (hne : cs ≠ [])
    (h : trim cs = cs) (between : List Char) :
    trim (c :: (between ++ cs)) = c :: (between ++ cs) := by
  have hend : trimEnd cs = cs := by
    rw [← h]
    exact trimEnd_trimEnd _
  have happend : trimEnd (between ++ cs) = between ++ cs := by
    rw [trimEnd_append (by rwa [hend]), hend]
  unfold trim
  rw [trimStart_cons hc, trimEnd_cons hc, happend]

theorem isAllBlank_iff {cs : List Char} : isAllBlank cs = true ↔ trim cs = [] := by
  have hstart : isAllBlank cs = true ↔ trimStart cs = [] := by
    rw [isAllBlank, List.all_eq_true, trimStart, List.dropWhile_eq_nil_iff]
  rw [hstart, trim]
  rcases trimStart_cases cs with hnil | ⟨c, rest, hcons, hc⟩
  · rw [hnil]
    exact iff_of_true rfl rfl
  · rw [hcons, trimEnd_cons hc]
    exact iff_of_false (List.cons_ne_nil _ _) (List.cons_ne_nil _ _)

theorem head?_trim {c : Char} {cs : List Char} (h : (trim cs).head? = some c) :
    isBlank c = false := by
  rcases trimStart_cases cs with hnil | ⟨d, rest, hcons, hd⟩
  · rw [trim, hnil] at h
    cases h
  · rw [trim, hcons, trimEnd_cons hd] at h
    rwa [← Option.some.inj h]

theorem getLast?_trim {c : Char} {cs : List Char} (h : (trim cs).getLast? = some c) :
    isBlank c = false := by
  rw [trim, trimEnd, List.getLast?_reverse] at h
  have hhead := List.head?_dropWhile_not isBlank (trimStart cs).reverse
  rw [h] at hhead
  exact hhead

theorem trim_eq_self {cs : List Char} (hhead : ∀ c, cs.head? = some c → isBlank c = false)
    (hlast : ∀ c, cs.getLast? = some c → isBlank c = false) : trim cs = cs := by
  have hdrop : ∀ l : List Char, (∀ c, l.head? = some c → isBlank c = false) →
      l.dropWhile isBlank = l := by
    intro l hl
    cases l with
    | nil => rfl
    | cons c rest => exact trimStart_cons (hl c rfl) rest
  rw [trim, trimStart, hdrop cs hhead, trimEnd, hdrop, List.reverse_reverse]
  intro c hc
  rw [List.head?_reverse] at hc
  exact hlast c hc

theorem cut?_eq_some_iff {p : Char → Bool} {cs before after : List Char} :
    cut? p cs = some (before, after) ↔
      ∃ c, p c = true ∧ (∀ d ∈ before, p d = false) ∧ cs = before ++ c :: after := by
  unfold cut?
  constructor
  · intro h
    have hparts := cs.takeWhile_append_dropWhile (p := fun c => !p c)
    have hhead := List.head?_dropWhile_not (fun c => !p c) cs
    cases hrest : cs.dropWhile fun c => !p c with
    | nil =>
      rw [hrest] at h
      cases h
    | cons c rest =>
      rw [hrest] at h hparts hhead
      obtain ⟨rfl, rfl⟩ := Prod.mk.inj (Option.some.inj h)
      refine ⟨c, by simpa using hhead, fun d hd => ?_, hparts.symm⟩
      simpa using List.mem_takeWhile_imp hd
  · rintro ⟨c, hc, hbefore, rfl⟩
    have hnot : ∀ d ∈ before, (!p d) = true := fun d hd => by simp [hbefore d hd]
    rw [List.dropWhile_append_of_pos hnot, List.takeWhile_append_of_pos hnot]
    simp [hc]

theorem cut?_eq_none_iff {p : Char → Bool} {cs : List Char} :
    cut? p cs = none ↔ ∀ c ∈ cs, p c = false := by
  unfold cut?
  cases hrest : cs.dropWhile fun c => !p c with
  | nil => simpa using List.dropWhile_eq_nil_iff.mp hrest
  | cons c rest =>
    have hhead := List.head?_dropWhile_not (fun c => !p c) cs
    rw [hrest] at hhead
    have hmem : c ∈ cs := (List.dropWhile_sublist _).subset (hrest ▸ List.mem_cons_self)
    exact iff_of_false nofun fun hall => by simp [hall c hmem] at hhead

theorem cut?_append {separator : Char} {before : List Char} (h : separator ∉ before)
    (after : List Char) :
    cut? (· == separator) (before ++ separator :: after) = some (before, after) := by
  have hbefore : ∀ c ∈ before, (!c == separator) = true := by
    rintro c hc
    have hne : c ≠ separator := by
      rintro rfl
      exact h hc
    simpa using hne
  unfold cut?
  rw [List.dropWhile_append_of_pos hbefore, List.takeWhile_append_of_pos hbefore]
  simp

theorem splitAll_ne_nil (separator : Char) (cs : List Char) : splitAll separator cs ≠ [] := by
  cases cs with
  | nil => simp [splitAll]
  | cons c rest =>
    unfold splitAll
    split
    · simp
    · split <;> simp

theorem of_mem_splitAll {separator : Char} {cs part : List Char}
    (h : part ∈ splitAll separator cs) : ∀ c ∈ part, c ≠ separator ∧ c ∈ cs := by
  induction cs generalizing part with
  | nil =>
    rw [List.mem_singleton.mp h]
    exact nofun
  | cons c rest ih =>
    have hlater : ∀ part ∈ splitAll separator rest, ∀ d ∈ part, d ≠ separator ∧ d ∈ c :: rest :=
      fun part hpart d hd => (ih hpart d hd).imp_right (List.mem_cons_of_mem c)
    unfold splitAll at h
    split at h
    · rcases List.mem_cons.mp h with rfl | h
      · exact nofun
      · exact hlater part h
    · next hc =>
      have hne : c ≠ separator := by simpa using hc
      cases hparts : splitAll separator rest with
      | nil => exact absurd hparts (splitAll_ne_nil separator rest)
      | cons first more =>
        rw [hparts] at h hlater
        rcases List.mem_cons.mp h with rfl | h
        · exact List.forall_mem_cons.mpr
            ⟨⟨hne, List.mem_cons_self⟩, hlater first List.mem_cons_self⟩
        · exact hlater part (List.mem_cons_of_mem _ h)

theorem splitAll_append (separator : Char) (before after : List Char) :
    splitAll separator (before ++ separator :: after) =
      splitAll separator before ++ splitAll separator after := by
  induction before with
  | nil => simp [splitAll]
  | cons c rest ih =>
    by_cases hc : c = separator
    · simp [splitAll, hc, ih]
    · simp only [List.cons_append, splitAll, ih]
      cases hrest : splitAll separator rest with
      | nil => exact absurd hrest (splitAll_ne_nil separator rest)
      | cons part parts => simp [hc]

theorem splitAll_of_not_mem {separator : Char} {cs : List Char} (h : separator ∉ cs) :
    splitAll separator cs = [cs] := by
  induction cs with
  | nil => rfl
  | cons c rest ih =>
    rw [List.mem_cons, not_or] at h
    simp [splitAll, Ne.symm h.1, ih h.2]

theorem mem_intercalate {sep : List Char} {words : List (List Char)} {c : Char}
    (h : c ∈ List.intercalate sep words) : c ∈ sep ∨ ∃ word ∈ words, c ∈ word := by
  induction words with
  | nil => cases h
  | cons word words ih =>
    cases words with
    | nil =>
      right
      exact ⟨word, List.mem_cons_self, by simpa [List.intercalate] using h⟩
    | cons next words =>
      simp only [List.intercalate, List.intersperse_cons_cons, List.flatten_cons,
        List.mem_append] at h
      rcases h with h | h | h
      · exact .inr ⟨word, List.mem_cons_self, h⟩
      · exact .inl h
      · rcases ih h with h | ⟨w, hw, hc⟩
        · exact .inl h
        · exact .inr ⟨w, List.mem_cons_of_mem word hw, hc⟩

theorem splitAll_intercalate {separator : Char} {parts : List (List Char)} (hne : parts ≠ [])
    (h : ∀ part ∈ parts, separator ∉ part) :
    splitAll separator (List.intercalate [separator] parts) = parts := by
  induction parts with
  | nil => exact absurd rfl hne
  | cons part rest ih =>
    have hpart := splitAll_of_not_mem (h part List.mem_cons_self)
    cases rest with
    | nil => rw [List.intercalate_singleton, hpart]
    | cons next rest =>
      rw [List.intercalate_cons_cons, List.append_assoc, List.singleton_append, splitAll_append,
        hpart, ih (List.cons_ne_nil _ _) fun p hp => h p (List.mem_cons_of_mem _ hp)]
      rfl

theorem splitAll_append_part {separator : Char} {part : List Char} (h : separator ∉ part)
    (cs : List Char) :
    ∃ parts last, splitAll separator cs = parts ++ [last] ∧
      splitAll separator (cs ++ part) = parts ++ [last ++ part] := by
  induction cs with
  | nil => exact ⟨[], [], rfl, splitAll_of_not_mem h⟩
  | cons c rest ih =>
    obtain ⟨parts, last, hrest, hpart⟩ := ih
    by_cases hc : c = separator
    · exact ⟨[] :: parts, last, by simp [splitAll, hc, hrest], by simp [splitAll, hc, hpart]⟩
    · cases parts with
      | nil => exact ⟨[], c :: last, by simp [splitAll, hc, hrest], by simp [splitAll, hc, hpart]⟩
      | cons first more =>
        exact ⟨(c :: first) :: more, last, by simp [splitAll, hc, hrest],
          by simp [splitAll, hc, hpart]⟩

theorem cuts_cons (separator c : Char) (rest : List Char) :
    cuts separator (c :: rest) =
      if c == separator then
        ([], rest) :: (cuts separator rest).map fun cut => (c :: cut.1, cut.2)
      else (cuts separator rest).map fun cut => (c :: cut.1, cut.2) := rfl

theorem mem_cuts {separator : Char} {cs before after : List Char} :
    (before, after) ∈ cuts separator cs ↔ cs = before ++ separator :: after := by
  induction cs generalizing before with
  | nil => simp [cuts]
  | cons c rest ih =>
    have hlater : ∀ d more, (d :: more, after) ∈
        (cuts separator rest).map (fun cut => (c :: cut.1, cut.2)) ↔
          c = d ∧ rest = more ++ separator :: after := by
      intro d more
      rw [← ih, List.mem_map]
      constructor
      · rintro ⟨cut, hmem, heq⟩
        simp only [Prod.mk.injEq, List.cons.injEq] at heq
        obtain ⟨⟨rfl, rfl⟩, rfl⟩ := heq
        exact ⟨rfl, hmem⟩
      · rintro ⟨rfl, hmem⟩
        exact ⟨_, hmem, rfl⟩
    rw [cuts_cons]
    -- A cut with nothing before it is at the first character, and every other one comes later.
    cases before with
    | nil =>
      by_cases hc : c = separator
      · simpa [hc] using eq_comm
      · simp [hc]
    | cons d before =>
      have hmem := hlater d before
      by_cases hc : c = separator
      · rw [if_pos (by rw [hc, beq_self_eq_true]), List.mem_cons, hmem]
        simp
      · rw [if_neg (by rw [beq_iff_eq]; exact hc), hmem]
        simp

/-- Text is cut first where its beginning is cut, then between the two parts, and then where its
end is cut. -/
theorem cuts_append (separator : Char) (left right : List Char) :
    cuts separator (left ++ separator :: right) =
      (cuts separator left).map (fun cut => (cut.1, cut.2 ++ separator :: right)) ++
        (left, right) ::
          (cuts separator right).map (fun cut => (left ++ separator :: cut.1, cut.2)) := by
  induction left with
  | nil => simp [cuts]
  | cons c rest ih =>
    by_cases hc : c = separator
    · simp [cuts, hc, ih, Function.comp_def]
    · simp [cuts, hc, ih, Function.comp_def]

/-- Where text is cut, and where it could be cut as well: before that, there, or after that. -/
theorem cut_cases {separator : Char} {left right before after : List Char}
    (h : left ++ separator :: right = before ++ separator :: after) :
    (∃ more, left = before ++ separator :: more ∧ after = more ++ separator :: right) ∨
      (left = before ∧ right = after) ∨
      ∃ more, before = left ++ separator :: more ∧ right = more ++ separator :: after := by
  have hmem : (before, after) ∈ cuts separator (left ++ separator :: right) := mem_cuts.mpr h
  rw [cuts_append, List.mem_append, List.mem_cons, List.mem_map, List.mem_map] at hmem
  rcases hmem with ⟨⟨first, more⟩, hcut, heq⟩ | heq | ⟨⟨more, last⟩, hcut, heq⟩
  · obtain ⟨rfl, rfl⟩ := Prod.mk.inj heq
    exact .inl ⟨more, mem_cuts.mp hcut, rfl⟩
  · obtain ⟨rfl, rfl⟩ := Prod.mk.inj heq
    exact .inr (.inl ⟨rfl, rfl⟩)
  · obtain ⟨rfl, rfl⟩ := Prod.mk.inj heq
    exact .inr (.inr ⟨more, rfl, mem_cuts.mp hcut⟩)

/-- Where something is found at a cut, and at none before it, it is what is found first. -/
theorem findSome?_cuts {α : Type} {separator : Char} {left right : List Char}
    {find : List Char × List Char → Option α} {a : α} (hfound : find (left, right) = some a)
    (hbefore : ∀ before after, left = before ++ separator :: after →
      find (before, after ++ separator :: right) = none) :
    (cuts separator (left ++ separator :: right)).findSome? find = some a := by
  have hnone : ((cuts separator left).map
      fun cut => (cut.1, cut.2 ++ separator :: right)).findSome? find = none := by
    rw [List.findSome?_eq_none_iff]
    intro cut hcut
    obtain ⟨⟨before, after⟩, hmem, rfl⟩ := List.mem_map.mp hcut
    exact hbefore before after (mem_cuts.mp hmem)
  rw [cuts_append, List.findSome?_append, hnone, Option.none_or, List.findSome?_cons, hfound]

/-! ## The full stop at the end -/

theorem length_dropFinalStop_le (cs : List Char) : (dropFinalStop cs).length ≤ cs.length := by
  unfold dropFinalStop
  split
  · rw [List.length_dropLast]
    exact Nat.sub_le _ _
  · exact Nat.le_refl _

theorem dropFinalStop_append {cs : List Char} (h : cs ≠ []) (before : List Char) :
    dropFinalStop (before ++ cs) = before ++ dropFinalStop cs := by
  have hlast : (before ++ cs).getLast? = cs.getLast? := by
    rw [List.getLast?_append, Option.or_of_isSome (List.getLast?_isSome.mpr h)]
  unfold dropFinalStop
  rw [hlast, List.dropLast_append_of_ne_nil h]
  split <;> rfl

theorem dropFinalStop_eq_self_iff {cs : List Char} :
    dropFinalStop cs = cs ↔ cs.getLast? ≠ some '.' := by
  unfold dropFinalStop
  split
  · next hstop =>
    obtain ⟨front, rfl⟩ := List.getLast?_eq_some_iff.mp hstop
    simp
  · next hplain => exact iff_of_true rfl hplain

end TagRules.Text
