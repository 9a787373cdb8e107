import TagRules.Proofs.Net.Consumption
import TagRules.Proofs.Text.Digits

/-
  What the readers of numerals and groups do on text that was written.

  A reader takes digits greedily, so what comes after a number matters: `NoDigit` says
  that no digit does.  Then a numeral is read back (`readNumber_digits`,
  `readOctet_digits`), and so are groups with colons between them up to a text at which
  groups end (`readGroups_colons`).

  Where there is room for two groups, each is first tried as an IPv4 address.  That
  fails on a group, because no point comes after its digits (`readOctets_word`).
-/

namespace TagRules.Net

open Text

/-- No digit of any radix comes next. -/
def NoDigit (rest : List Char) : Prop := ∀ c, rest.head? = some c → hexDigit? c = none

/-- A text at which groups end: nothing more, a slash, or two colons. -/
inductive GroupsEnd : List Char → Prop where
  | nothing : GroupsEnd []
  | slash (rest : List Char) : GroupsEnd ('/' :: rest)
  | colons (rest : List Char) : GroupsEnd (':' :: ':' :: rest)

/-- Groups with a colon before each. -/
def ledGroups (groups : List Nat) : List Char := groups.flatMap fun g => ':' :: digits 16 g

theorem noDigit_nil : NoDigit [] := fun _ h => by cases h

theorem noDigit_cons {c : Char} (h : hexDigit? c = none) (rest : List Char) :
    NoDigit (c :: rest) := by
  intro d hd
  rw [← Option.some.inj hd]
  exact h

theorem noDigit_of_groupsEnd {rest : List Char} (h : GroupsEnd rest) : NoDigit rest := by
  cases h with
  | nothing => exact noDigit_nil
  | slash rest => exact noDigit_cons rfl rest
  | colons rest => exact noDigit_cons rfl _

theorem colons_nil : colons [] = [] := rfl

theorem colons_cons (g : Nat) (groups : List Nat) :
    colons (g :: groups) = digits 16 g ++ ledGroups groups := by
  induction groups generalizing g with
  | nil => simp [colons, ledGroups, List.intercalate]
  | cons h groups ih =>
    have := ih h
    simp only [colons, List.intercalate, List.map_cons, List.intersperse_cons_cons,
      List.flatten_cons] at this ⊢
    rw [this]
    simp [ledGroups]

/-! ## Numerals -/

theorem readNumber_run {radix most : Nat} {run rest : List Char}
    (hrun : ∀ c ∈ run, (digit? radix c).isSome = true) (hne : run ≠ []) (hlen : run.length ≤ most)
    (hrest : NoDigit rest) : readNumber radix most (run ++ rest) = some (run, rest) := by
  have hstop : rest.takeWhile (fun c => (digit? radix c).isSome) = [] := by
    cases rest with
    | nil => rfl
    | cons c rest =>
      rw [List.takeWhile_cons_of_neg]
      rw [digit?_none (hrest c rfl)]
      exact Bool.false_ne_true
  unfold readNumber
  simp only [List.takeWhile_append_of_pos hrun, hstop, List.append_nil,
    List.isEmpty_eq_false_iff.mpr hne, Bool.false_or, decide_eq_true_eq, List.drop_left]
  rw [if_neg (by omega)]

theorem readNumber_digits {radix most n : Nat} {rest : List Char} (hr : 1 < radix)
    (hr' : radix ≤ 16) (hm : 0 < most) (hn : n < Nat.pow radix most) (hrest : NoDigit rest) :
    readNumber radix most (digits radix n ++ rest) = some (digits radix n, rest) :=
  readNumber_run (fun _ hc => digit?_of_mem_digits hr hr' hc) (digits_ne_nil n)
    (length_digits_le hr hm hn) hrest

/-- Both grammars take a written number, which has no zero before its first digit. -/
theorem readOctet_digits (style : AddressStyle) {n : Nat} {rest : List Char} (hn : n < 256)
    (hrest : NoDigit rest) : readOctet style (digits 10 n ++ rest) = some (n, rest) := by
  have hread : readNumber 10 3 (digits 10 n ++ rest) = some (digits 10 n, rest) :=
    readNumber_digits (by decide) (by decide) (by decide) (Nat.lt_trans hn (by decide)) hrest
  have hvalue : value 10 (digits 10 n) = n := value_digits (by decide) (by decide) n
  have hpad : ¬(digits 10 n).head? = some '0' ∨ ¬1 < (digits 10 n).length := by
    by_cases hlen : 1 < (digits 10 n).length
    · exact .inl (head?_digits_of_length (by decide) hlen)
    · exact .inr hlen
  unfold readOctet
  rw [hread]
  simp only [Option.bind_eq_bind, Option.bind_some, hvalue, hn, if_true]
  rw [if_neg]
  rcases hpad with h | h <;> simp [h]

/-- A text that is read as one group: up to four hexadecimal digits. -/
structure IsGroupWord (word : List Char) : Prop where
  nonempty : word ≠ []
  short : word.length ≤ 4
  digits : ∀ c ∈ word, (digit? 16 c).isSome = true

theorem isGroupWord_iff {word : List Char} :
    (word ≠ [] ∧ word.length ≤ 4 ∧ word.all (fun c => (digit? 16 c).isSome) = true) ↔
      IsGroupWord word := by
  rw [List.all_eq_true]
  exact ⟨fun h => ⟨h.1, h.2.1, h.2.2⟩, fun h => ⟨h.nonempty, h.short, h.digits⟩⟩

instance (word : List Char) : Decidable (IsGroupWord word) := decidable_of_iff _ isGroupWord_iff

theorem isGroupWord_digits {g : Nat} (hg : g < 65536) : IsGroupWord (digits 16 g) where
  nonempty := digits_ne_nil g
  short := length_digits_le (by decide) (by decide) hg
  digits _ hc := digit?_of_mem_digits (by decide) (by decide) hc

theorem readGroup_word {word rest : List Char} (h : IsGroupWord word) (hrest : NoDigit rest) :
    readGroup (word ++ rest) = some (value 16 word, rest) := by
  have hread : readNumber 16 4 (word ++ rest) = some (word, rest) :=
    readNumber_run h.digits h.nonempty h.short hrest
  unfold readGroup
  rw [hread]
  rfl

theorem isGroupWord_of_readGroup {cs rest : List Char} {g : Nat}
    (h : readGroup cs = some (g, rest)) : ∃ word, cs = word ++ rest ∧ IsGroupWord word := by
  obtain ⟨⟨word, more⟩, hread, h⟩ := Option.bind_eq_some_iff.mp h
  obtain ⟨-, rfl⟩ := Prod.mk.inj (Option.some.inj h)
  obtain ⟨heq, hne, hlen, hdigits⟩ := of_readNumber hread
  exact ⟨word, heq, hne, hlen, hdigits⟩

theorem readOctet_noDigit (style : AddressStyle) {rest : List Char} (h : NoDigit rest) :
    readOctet style rest = none := by
  have hread : readNumber 10 3 rest = none := by
    unfold readNumber
    cases rest with
    | nil => rfl
    | cons c rest => simp [digit?_none (h c rfl)]
  unfold readOctet
  rw [hread]
  rfl

theorem readGroup_noDigit {rest : List Char} (h : NoDigit rest) : readGroup rest = none := by
  have hread : readNumber 16 4 rest = none := by
    unfold readNumber
    cases rest with
    | nil => rfl
    | cons c rest => simp [digit?_none (h c rfl)]
  unfold readGroup
  rw [hread]
  rfl

/-! ## IPv4 addresses -/

theorem readOctets_dotted (style : AddressStyle) {octets : List Nat} {rest : List Char}
    (hl : octets.length = 4) (hb : ∀ o ∈ octets, o < 256) (hrest : NoDigit rest) :
    readOctets style (dotted octets ++ rest) = some (octets, rest) := by
  match octets, hl with
  | [a, b, c, d], _ =>
    have hread : ∀ o ∈ [a, b, c, d], ∀ more,
        readOctet style (digits 10 o ++ '.' :: more) = some (o, '.' :: more) :=
      fun o ho more => readOctet_digits style (hb o ho) (noDigit_cons rfl more)
    have hlast := readOctet_digits style (hb d (by simp)) hrest
    have hsplit : dotted [a, b, c, d] ++ rest =
        digits 10 a ++ '.' ::
          (digits 10 b ++ '.' :: (digits 10 c ++ '.' :: (digits 10 d ++ rest))) := by
      simp [dotted, List.intercalate]
    rw [hsplit]
    unfold readOctets
    simp only [hread a (by simp), hread b (by simp), hread c (by simp), hlast, readChar_cons,
      Option.bind_eq_bind, Option.bind_some]

theorem point_of_readOctets {style : AddressStyle} {cs : List Char} {answer : List Nat × List Char}
    (h : readOctets style cs = some answer) :
    ∃ run more, cs = run ++ '.' :: more ∧ ∀ c ∈ run, isDecimal c = true := by
  unfold readOctets at h
  simp only [Option.bind_eq_bind, Option.bind_eq_some_iff, Prod.exists] at h
  obtain ⟨a, more, ha, _, _, hpoint, -⟩ := h
  obtain ⟨run, rfl, hrun⟩ := (Consumes.octet style).leaves ha
  exact ⟨run, _, by rw [of_readChar hpoint], hrun⟩

theorem readOctets_eq_none (style : AddressStyle) {word rest : List Char} (hword : '.' ∉ word)
    (hdigit : NoDigit rest) (hpoint : rest.head? ≠ some '.') :
    readOctets style (word ++ rest) = none := by
  apply Option.eq_none_iff_forall_ne_some.mpr
  intro answer h
  obtain ⟨run, more, heq, hrun⟩ := point_of_readOctets h
  -- The digits before the point go on after the word, or end in it.
  rcases List.append_eq_append_iff.mp heq with ⟨tail, rfl, htail⟩ | ⟨tail, rfl, htail⟩
  · cases tail with
    | nil =>
      rw [List.nil_append] at htail
      exact hpoint (by rw [htail]; rfl)
    | cons c tail =>
      have hc := hrun c (by simp)
      have hnone := hdigit c (by rw [htail]; rfl)
      rw [isDecimal, digit?_none hnone] at hc
      cases hc
  · cases tail with
    | nil =>
      rw [List.nil_append] at htail
      exact hpoint (by rw [← htail]; rfl)
    | cons c tail =>
      rw [List.cons_append, List.cons.injEq] at htail
      exact hword (by simp [← htail.1])

/-! ## Groups -/

/-- Neither a digit nor a point comes next, so that what was read is a whole group. -/
structure WordEnd (rest : List Char) : Prop where
  noDigit : NoDigit rest
  noPoint : rest.head? ≠ some '.'

theorem wordEnd_colon (rest : List Char) : WordEnd (':' :: rest) := ⟨noDigit_cons rfl rest, by simp⟩

theorem wordEnd_of_groupsEnd {rest : List Char} (h : GroupsEnd rest) : WordEnd rest :=
  ⟨noDigit_of_groupsEnd h, by cases h <;> simp⟩

theorem wordEnd_ledGroups (groups : List Nat) {rest : List Char} (h : WordEnd rest) :
    WordEnd (ledGroups groups ++ rest) := by
  cases groups with
  | nil => exact h
  | cons g groups => exact wordEnd_colon _

theorem readOctets_word (style : AddressStyle) {word rest : List Char} (hw : IsGroupWord word)
    (hrest : WordEnd rest) : readOctets style (word ++ rest) = none := by
  apply readOctets_eq_none style _ hrest.noDigit hrest.noPoint
  intro hpoint
  exact absurd (hw.digits '.' hpoint) (by decide)

theorem readOctets_noDigit (style : AddressStyle) {rest : List Char} (h : NoDigit rest) :
    readOctets style rest = none := by
  unfold readOctets
  rw [readOctet_noDigit style h]
  rfl

theorem afterColon_cons {α : Type} (inner : Reader α) (rest : List Char) :
    afterColon false inner (':' :: rest) = inner rest := by
  unfold afterColon
  simp [readChar_cons]

/-- Where groups end there is none to read, after a colon or without one. -/
theorem afterColon_groupsEnd {α : Type} (first : Bool) {inner : Reader α}
    (hinner : ∀ {rest}, NoDigit rest → inner rest = none) {rest : List Char} (h : GroupsEnd rest) :
    afterColon first inner rest = none := by
  cases first with
  | true => exact hinner (noDigit_of_groupsEnd h)
  | false =>
    cases h with
    | nothing => rfl
    | slash rest => rfl
    | colons rest =>
      rw [afterColon_cons]
      exact hinner (noDigit_cons rfl rest)

variable {style : AddressStyle} {first : Bool} {room : Nat} {cs rest : List Char}

theorem readGroups_stop (style : AddressStyle) (room : Nat)
    (ho : afterColon first (readOctets style) cs = none)
    (hg : afterColon first readGroup cs = none) :
    readGroups style first room cs = ([], false, cs) := by
  cases room with
  | zero => rfl
  | succ room =>
    unfold readGroups
    simp only [ho, hg, ite_self]

theorem readGroups_step {g : Nat} (ho : afterColon first (readOctets style) cs = none)
    (hg : afterColon first readGroup cs = some (g, rest)) :
    readGroups style first (room + 1) cs =
      (g :: (readGroups style false room rest).1, (readGroups style false room rest).2) := by
  rw [readGroups]
  simp only [ho, hg, ite_self]

theorem readGroups_groupsEnd (style : AddressStyle) (first : Bool) (room : Nat)
    (h : GroupsEnd rest) : readGroups style first room rest = ([], false, rest) :=
  readGroups_stop style room (afterColon_groupsEnd first (readOctets_noDigit style) h)
    (afterColon_groupsEnd first readGroup_noDigit h)

theorem readGroups_word (style : AddressStyle) (room : Nat) {word : List Char}
    (hw : IsGroupWord word) (hrest : WordEnd rest) :
    readGroups style true (room + 1) (word ++ rest) =
      (value 16 word :: (readGroups style false room rest).1,
        (readGroups style false room rest).2) :=
  readGroups_step (readOctets_word style hw hrest) (readGroup_word hw hrest.noDigit)

theorem value_digits_16 (g : Nat) : value 16 (digits 16 g) = g :=
  value_digits (by decide) (by decide) g

/-- By induction on the groups; what comes after them is read if there is room. -/
theorem readGroups_led_more (style : AddressStyle) (room : Nat) {groups : List Nat}
    (hb : ∀ g ∈ groups, g < 65536) (hrest : WordEnd rest) :
    readGroups style false (groups.length + room) (ledGroups groups ++ rest) =
      (groups ++ (readGroups style false room rest).1, (readGroups style false room rest).2) := by
  induction groups with
  | nil =>
    rw [List.length_nil, Nat.zero_add]
    rfl
  | cons g groups ih =>
    have hend := wordEnd_ledGroups groups hrest
    have hw := isGroupWord_digits (hb g List.mem_cons_self)
    have hsplit : ledGroups (g :: groups) ++ rest =
        ':' :: (digits 16 g ++ (ledGroups groups ++ rest)) := by simp [ledGroups]
    have ho : afterColon false (readOctets style) (ledGroups (g :: groups) ++ rest) = none := by
      rw [hsplit, afterColon_cons]
      exact readOctets_word style hw hend
    have hg : afterColon false readGroup (ledGroups (g :: groups) ++ rest) =
        some (g, ledGroups groups ++ rest) := by
      rw [hsplit, afterColon_cons, readGroup_word hw hend.noDigit, value_digits_16]
    rw [List.length_cons, Nat.add_right_comm, readGroups_step ho hg,
      ih fun x hx => hb x (List.mem_cons_of_mem g hx)]
    rfl

theorem readGroups_led (style : AddressStyle) (room : Nat) {groups : List Nat}
    (hb : ∀ g ∈ groups, g < 65536) (hrest : GroupsEnd rest) :
    readGroups style false room (ledGroups groups ++ rest) =
      (groups.take room, false, ledGroups (groups.drop room) ++ rest) := by
  have hsplit : ledGroups groups ++ rest =
      ledGroups (groups.take room) ++ (ledGroups (groups.drop room) ++ rest) := by
    unfold ledGroups
    rw [← List.append_assoc, ← List.flatMap_append, List.take_append_drop]
  have hroom : room = (groups.take room).length + (room - groups.length) := by
    rw [List.length_take]
    omega
  have hstop : readGroups style false (room - groups.length)
      (ledGroups (groups.drop room) ++ rest) =
        ([], false, ledGroups (groups.drop room) ++ rest) := by
    by_cases hfull : room ≤ groups.length
    · rw [Nat.sub_eq_zero_of_le hfull]
      rfl
    · rw [List.drop_of_length_le (Nat.le_of_not_le hfull)]
      exact readGroups_groupsEnd style false _ hrest
  have htaken : ∀ g ∈ groups.take room, g < 65536 := fun g hg => hb g (List.mem_of_mem_take hg)
  have hread := readGroups_led_more style (room - groups.length) htaken
    (wordEnd_ledGroups (groups.drop room) (wordEnd_of_groupsEnd hrest))
  rwa [← hroom, ← hsplit, hstop, List.append_nil] at hread

theorem readGroups_colons_more (style : AddressStyle) (room : Nat) {groups : List Nat}
    (hne : groups ≠ []) (hb : ∀ g ∈ groups, g < 65536) (hrest : WordEnd rest) :
    readGroups style true (groups.length + room) (colons groups ++ rest) =
      (groups ++ (readGroups style false room rest).1, (readGroups style false room rest).2) := by
  cases groups with
  | nil => exact absurd rfl hne
  | cons g groups =>
    rw [colons_cons, List.append_assoc, List.length_cons, Nat.add_right_comm,
      readGroups_word style _ (isGroupWord_digits (hb g List.mem_cons_self))
        (wordEnd_ledGroups groups hrest),
      readGroups_led_more style room (fun x hx => hb x (List.mem_cons_of_mem g hx)) hrest,
      value_digits_16]
    rfl

theorem readGroups_colons_take (style : AddressStyle) (room : Nat) {groups : List Nat}
    (hne : groups ≠ []) (hb : ∀ g ∈ groups, g < 65536) (hrest : GroupsEnd rest) :
    readGroups style true (room + 1) (colons groups ++ rest) =
      (groups.take (room + 1), false, ledGroups (groups.drop (room + 1)) ++ rest) := by
  cases groups with
  | nil => exact absurd rfl hne
  | cons g groups =>
    rw [colons_cons, List.append_assoc, readGroups_word style room
      (isGroupWord_digits (hb g List.mem_cons_self))
      (wordEnd_ledGroups groups (wordEnd_of_groupsEnd hrest)),
      readGroups_led style room (fun x hx => hb x (List.mem_cons_of_mem g hx)) hrest,
      value_digits_16]
    rfl

theorem readGroups_colons (style : AddressStyle) {groups : List Nat}
    (hroom : groups.length ≤ room) (hb : ∀ g ∈ groups, g < 65536) (hrest : GroupsEnd rest) :
    readGroups style true room (colons groups ++ rest) = (groups, false, rest) := by
  by_cases hne : groups = []
  · rw [hne]
    exact readGroups_groupsEnd style true room hrest
  · obtain ⟨more, rfl⟩ := Nat.exists_eq_add_of_le hroom
    rw [readGroups_colons_more style more hne hb (wordEnd_of_groupsEnd hrest),
      readGroups_groupsEnd style false more hrest, List.append_nil]

end TagRules.Net
