import TagRules.Proofs.Net.NetworkText

/-
  A word and a colon before a written network.

  The colon is also what stands between the groups of an IPv6 address, so the whole
  text may be a network itself, with the word as its first group.  `ofChars?_word` says
  exactly when: the word has to be a group (`IsGroupWord`), and the network has to be
  written with `::` after its first group (`Address.ElidesLater`), where one group more
  can be put in.  Without `::` there is one group too many, a `::` at the start would
  come after three colons, and an IPv4 address does not come third.
-/

namespace TagRules.Net

open Text

/-- Whether the written form begins with a group and leaves some out later. -/
structure Address.ElidesLater (a : Address) : Prop where
  family : a.family = .v6
  notMapped : a.mapped? = none
  later : 0 < (elided (a.parts 16)).1
  some : 1 < (elided (a.parts 16)).2

instance (a : Address) : Decidable a.ElidesLater :=
  decidable_of_iff
    (a.family = .v6 ∧ a.mapped? = none ∧ 0 < (elided (a.parts 16)).1 ∧ 1 < (elided (a.parts 16)).2)
    ⟨fun h => ⟨h.1, h.2.1, h.2.2.1, h.2.2.2⟩, fun h => ⟨h.family, h.notMapped, h.later, h.some⟩⟩

theorem Address.ElidesLater.write_eq {a : Address} (h : a.ElidesLater) :
    a.write = colons ((a.parts 16).take (elided (a.parts 16)).1) ++ [':', ':'] ++
      colons ((a.parts 16).drop ((elided (a.parts 16)).1 + (elided (a.parts 16)).2)) := by
  rw [write_groups h.family h.notMapped, writeGroups_eq, if_pos h.some]

/-- The network with one more group before the others, and one less of those left out. -/
def Network.absorb (word : List Char) (n : Network) : Network :=
  ⟨Address.wrap .v6 (Address.ofParts 16
      (value 16 word :: (n.address.parts 16).eraseIdx (elided (n.address.parts 16)).1)),
    n.length, n.length_le_128⟩

/-! ## The groups of the whole text -/

variable {word : List Char}

theorem readChar_eq_none {c : Char} {cs : List Char} (h : cs.head? ≠ some c) :
    readChar c cs = none := by
  cases cs with
  | nil => rfl
  | cons d rest =>
    have hne : d ≠ c := by
      rintro rfl
      exact h rfl
    simp only [readChar, if_neg hne]

theorem afterColon_eq_none {α : Type} (inner : Reader α) {cs : List Char}
    (h : cs.head? ≠ some ':') : afterColon false inner cs = none := by
  unfold afterColon
  rw [readChar_eq_none h]
  rfl

theorem readSixteens_eq_none {style : AddressStyle} {cs left : List Char} {head : List Nat}
    {ended : Bool} (hread : readGroups style true 8 cs = (head, ended, left))
    (hl : head.length ≠ 8) (hstop : ended = true ∨ left.head? ≠ some ':') :
    readSixteens style cs = none := by
  unfold readSixteens
  rw [hread]
  simp only [if_neg hl]
  split
  · rfl
  · next hended =>
    rw [readChar_eq_none (hstop.resolve_left hended)]
    rfl

theorem exists_tail_of_group {run more rest : List Char} (hw : ¬IsGroupWord word)
    (hrun : IsGroupWord run) (heq : word ++ ':' :: rest = run ++ more) :
    ∃ tail, tail ≠ [] ∧ word = run ++ tail ∧ more = tail ++ ':' :: rest := by
  rcases List.append_eq_append_iff.mp heq with ⟨tail, rfl, htail⟩ | ⟨tail, rfl, rfl⟩
  · cases tail with
    | nil => exact absurd (by simpa using hrun) hw
    | cons c tail =>
      rw [List.cons_append, List.cons.injEq] at htail
      have hcolon : (digit? 16 ':').isSome = true := hrun.digits ':' (by rw [htail.1]; simp)
      exact absurd hcolon (by decide)
  · refine ⟨tail, ?_, rfl, rfl⟩
    rintro rfl
    exact hw (by simpa using hrun)

theorem head?_ne_colon {tail : List Char} (hne : tail ≠ []) (h : ':' ∉ tail) (rest : List Char) :
    (tail ++ ':' :: rest).head? ≠ some ':' := by
  cases tail with
  | nil => exact absurd rfl hne
  | cons c tail =>
    intro heq
    rw [List.cons_append, List.head?_cons, Option.some.injEq] at heq
    exact h (heq ▸ List.mem_cons_self)

theorem readSixteens_no_group (style : AddressStyle) (hne : word ≠ []) (hcolon : ':' ∉ word)
    (hw : ¬IsGroupWord word) (rest : List Char) :
    readSixteens style (word ++ ':' :: rest) = none := by
  cases ho : afterColon true (readOctets style) (word ++ ':' :: rest) with
  | some answer =>
    -- An IPv4 address comes first, and nothing may come after that.
    have hread : readGroups style true 8 (word ++ ':' :: rest) =
        ([readGroups.ofPair answer.1 0, readGroups.ofPair answer.1 2], true, answer.2) := by
      unfold readGroups
      rw [ho]
      rfl
    exact readSixteens_eq_none hread (by simp) (.inl rfl)
  | none =>
    cases hg : afterColon true readGroup (word ++ ':' :: rest) with
    | none =>
      have hread := readGroups_stop style 8 ho hg
      exact readSixteens_eq_none hread (by simp) (.inr (head?_ne_colon hne hcolon rest))
    | some answer =>
      -- The word begins with a group, and then comes something that is not a colon.
      obtain ⟨run, heq, hrun⟩ := isGroupWord_of_readGroup hg
      obtain ⟨tail, htail, hword, hleft⟩ := exists_tail_of_group hw hrun heq
      have hstop : answer.2.head? ≠ some ':' := by
        rw [hleft]
        exact head?_ne_colon htail (fun hc => hcolon (hword ▸ List.mem_append_right run hc)) rest
      have hmore := readGroups_stop style 7 (afterColon_eq_none _ hstop)
        (afterColon_eq_none _ hstop)
      have hread : readGroups style true 8 (word ++ ':' :: rest) =
          ([answer.1], false, answer.2) := by
        rw [readGroups_step ho hg, hmore]
      exact readSixteens_eq_none hread (by simp) (.inr hstop)

/-! ## A word that is a group -/

theorem colon_colons {groups : List Nat} (h : groups ≠ []) :
    ':' :: colons groups = ledGroups groups := by
  cases groups with
  | nil => exact absurd rfl h
  | cons g groups =>
    rw [colons_cons]
    rfl

/-- An IPv4 address may stand for the last two groups only. -/
theorem readSixteens_word_v4 (style : AddressStyle) (hw : IsGroupWord word) {a : Address}
    (hf : a.family = .v4) {rest : List Char} (hrest : NoDigit rest) :
    readSixteens style (word ++ ':' :: (a.write ++ rest)) = none := by
  have hlen := Address.length_parts_v4 hf
  have hread := readGroups_word style 7 hw (wordEnd_colon (a.write ++ rest))
  rw [Address.write_v4 hf] at hread ⊢
  rw [readGroups_dotted style 5 hlen (fun o ho => Address.lt_of_mem_parts ho) hrest] at hread
  exact readSixteens_eq_none hread (by simp) (.inl rfl)

theorem readSixteens_word_colons (style : AddressStyle) (hw : IsGroupWord word) (more : List Char) :
    readSixteens style (word ++ ':' :: ':' :: ':' :: more) =
      some (value 16 word :: List.replicate 7 0, ':' :: more) := by
  have hend : NoDigit (':' :: more) := noDigit_cons rfl more
  have hhead := readGroups_word style 7 hw (wordEnd_colon (':' :: ':' :: more))
  rw [readGroups_groupsEnd style false 7 (.colons _)] at hhead
  have hread : readSixteens style (word ++ ':' :: ':' :: ':' :: more) =
      some ([value 16 word] ++ List.replicate 7 0 ++ [], ':' :: more) :=
    readSixteens_of_head (by simp) hhead fun room _ =>
      readGroups_stop style room (readOctets_noDigit style hend) (readGroup_noDigit hend)
  rw [hread, List.append_nil]
  rfl

theorem readSixteens_word_eight (style : AddressStyle) (hw : IsGroupWord word) {groups : List Nat}
    {rest : List Char} (hl : groups.length = 8) (hb : ∀ g ∈ groups, g < 65536)
    (hrest : GroupsEnd rest) :
    readSixteens style (word ++ ':' :: (colons groups ++ rest)) =
      some (value 16 word :: groups.take 7, ledGroups (groups.drop 7) ++ rest) := by
  have hne : groups ≠ [] := by
    rintro rfl
    cases hl
  have hread := readGroups_word style 7 hw (wordEnd_colon (colons groups ++ rest))
  rw [← List.cons_append, colon_colons hne, readGroups_led style 7 hb hrest] at hread
  unfold readSixteens
  rw [← List.cons_append, colon_colons hne, hread]
  simp [hl]

theorem readSixteens_word_elided (style : AddressStyle) (hw : IsGroupWord word)
    {before after : List Nat} {rest : List Char} (hne : before ≠ [])
    (hl : before.length + after.length ≤ 6) (hb : ∀ g ∈ before ++ after, g < 65536)
    (hrest : GroupsEnd rest) :
    readSixteens style (word ++ ':' :: (colons before ++ [':', ':'] ++ colons after ++ rest)) =
      some (value 16 word :: before ++ List.replicate (7 - before.length - after.length) 0 ++ after,
        rest) := by
  have hsplit : ':' :: (colons before ++ [':', ':'] ++ colons after ++ rest) =
      ledGroups before ++ ':' :: ':' :: (colons after ++ rest) := by
    rw [← colon_colons hne]
    simp
  have hfit : before.length ≤ 7 := by omega
  have hhead := readGroups_word style 7 hw
    (wordEnd_colon (colons before ++ [':', ':'] ++ colons after ++ rest))
  rw [hsplit, readGroups_led style 7 (fun g hg => hb g (List.mem_append_left _ hg)) (.colons _),
    List.take_of_length_le hfit, List.drop_of_length_le hfit] at hhead
  rw [hsplit, readSixteens_of_head (by simp; omega) hhead fun room hroom =>
    readGroups_colons style hroom (fun g hg => hb g (List.mem_append_right _ hg)) hrest]
  congr 4
  simp

theorem readSixteens_word_later (style : AddressStyle) (hw : IsGroupWord word) {a : Address}
    (ha : a.ElidesLater) {rest : List Char} (hrest : GroupsEnd rest) :
    readSixteens style (word ++ ':' :: (a.write ++ rest)) =
      some (value 16 word :: (a.parts 16).eraseIdx (elided (a.parts 16)).1, rest) := by
  have hlen := Address.length_parts_v6 ha.family
  have hrun := elided_isZeroRun (a.parts 16)
  have hin := hrun.inside
  have hlater := ha.later
  have hsome := ha.some
  have hb : ∀ g ∈ (a.parts 16).take (elided (a.parts 16)).1 ++
      (a.parts 16).drop ((elided (a.parts 16)).1 + (elided (a.parts 16)).2), g < 65536 :=
    fun g hg => Address.lt_of_mem_parts (mem_of_mem_unelided hg)
  have hne : (a.parts 16).take (elided (a.parts 16)).1 ≠ [] := by
    apply List.ne_nil_of_length_pos
    simp
    omega
  rw [ha.write_eq, readSixteens_word_elided style hw hne (by simp; omega) hb hrest,
    hrun.eraseIdx_eq (by omega), List.cons_append, List.cons_append]
  congr 5
  simp
  omega

/-- Otherwise something is left over that begins with a colon, or no groups are read at all. -/
theorem colon_of_readSixteens_word {style : AddressStyle} (hw : IsGroupWord word) {a : Address}
    (ha : ¬a.ElidesLater) {rest left : List Char} (hrest : GroupsEnd rest) {groups : List Nat}
    (h : readSixteens style (word ++ ':' :: (a.write ++ rest)) = some (groups, left)) :
    left.head? = some ':' := by
  cases hf : a.family with
  | v4 =>
    rw [readSixteens_word_v4 style hw hf (noDigit_of_groupsEnd hrest)] at h
    cases h
  | v6 =>
    cases hm : a.mapped? with
    | some inner =>
      rw [Address.write_mapped hm] at h
      simp only [List.cons_append, List.nil_append, readSixteens_word_colons style hw] at h
      rw [← (Prod.mk.inj (Option.some.inj h)).2]
      rfl
    | none =>
      have hlen := Address.length_parts_v6 hf
      rw [Address.write_groups hf hm, Address.writeGroups_eq] at h
      split at h
      · next hsome =>
        -- The groups left out are the first.
        have hzero : (elided (a.parts 16)).1 = 0 :=
          Nat.eq_zero_of_not_pos fun hlater => ha ⟨hf, hm, hlater, hsome⟩
        rw [hzero, List.take_zero, colons_nil] at h
        simp only [List.cons_append, List.nil_append, readSixteens_word_colons style hw] at h
        rw [← (Prod.mk.inj (Option.some.inj h)).2]
        rfl
      · have hb : ∀ g ∈ a.parts 16, g < 65536 := fun g hg => Address.lt_of_mem_parts hg
        rw [readSixteens_word_eight style hw hlen hb hrest] at h
        rw [← (Prod.mk.inj (Option.some.inj h)).2]
        have hlast : ((a.parts 16).drop 7) ≠ [] := by
          apply List.ne_nil_of_length_pos
          simp [hlen]
        rw [← colon_colons hlast]
        rfl

/-! ## The whole text as a network -/

namespace Network

theorem whole_v4_eq_none {cs : List Char} (h : ':' ∈ cs) :
    whole (fun cs => (readV4 .relaxed cs).bind fun answer => readLength 2 answer.1 answer.2) cs =
      none := by
  have haddress : Consumes (fun c => c ≠ ':') (readV4 .relaxed) := by
    refine (Consumes.v4 .relaxed).mono ?_
    rintro c hc rfl
    rcases hc with hc | hc
    · exact absurd hc (by decide)
    · cases hc
  have hread := haddress.bind fun a => consumes_readLength 2 a
  exact hread.whole_eq_none h fun hne => hne rfl

theorem whole_v6_eq_none {cs : List Char}
    (h : ∀ {groups left}, readSixteens .relaxed cs = some (groups, left) → left.head? ≠ some '/') :
    whole (fun cs => (readV6 .relaxed cs).bind fun answer => readLength 3 answer.1 answer.2) cs =
      none := by
  have hnone : ((readV6 .relaxed cs).bind fun answer => readLength 3 answer.1 answer.2) = none := by
    unfold readV6
    cases hread : readSixteens .relaxed cs with
    | none => rfl
    | some answer =>
      simp only [Option.bind_eq_bind, Option.bind_some, readLength, readChar_eq_none (h hread),
        Option.bind_none]
  unfold whole
  simp only [hnone]

/-- A word with a colon before a written network is itself a network only if the word is a group
and the network elides some after its first group. -/
theorem ofChars?_word (hne : word ≠ []) (hcolon : ':' ∉ word) (n : Network) :
    ofChars? (word ++ ':' :: n.write) =
      if IsGroupWord word ∧ n.address.ElidesLater then some (n.absorb word) else none := by
  have hend : GroupsEnd ('/' :: digits 10 n.length) := .slash _
  have h4 := whole_v4_eq_none (List.mem_append_right word (List.mem_cons_self (l := n.write)))
  unfold ofChars?
  simp only [Option.bind_eq_bind, h4, Option.none_or]
  split
  · next h =>
    have hsixteens := readSixteens_word_later .relaxed h.1 h.2 hend
    have hlength := readLength_digits (n.absorb word) (by decide : 0 < 3)
      (Nat.lt_of_le_of_lt n.length_le_128 (by decide))
    have hread : ((readV6 .relaxed (word ++ ':' :: n.write)).bind
        fun answer => readLength 3 answer.1 answer.2) = some (n.absorb word, []) := by
      unfold readV6 write
      rw [hsixteens]
      exact hlength
    simp only [whole, hread]
  · next h =>
    apply whole_v6_eq_none
    intro groups left hread
    by_cases hw : IsGroupWord word
    · have ha : ¬n.address.ElidesLater := fun ha => h ⟨hw, ha⟩
      rw [colon_of_readSixteens_word hw ha hend hread]
      simp
    · rw [readSixteens_no_group .relaxed hne hcolon hw] at hread
      cases hread

end Network

end TagRules.Net
