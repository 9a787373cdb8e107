import TagRules.Proofs.Net.Parts
import TagRules.Proofs.Net.Readers
import TagRules.Proofs.Text.Blank

/-
  Reading a written address gives the address back.

  Both grammars do so, up to a text at which an address ends (`readV4_write`,
  `readV6_write`): the groups that the written form leaves out are zeros, and those
  are what is put in for `::`.  So an address is known by its written form
  (`write_injective`), and text that the reader of networks refuses is still read as
  the address it is (`ofChars?_write`).
-/

namespace TagRules.Net

open Text

/-! ## The characters of a written address -/

theorem isAddressChar_dotted {parts : List Nat} {c : Char} (h : c ∈ dotted parts) :
    IsAddressChar c := by
  rcases mem_intercalate h with h | ⟨word, hword, hc⟩
  · exact .inr (.inl (List.mem_singleton.mp h))
  · obtain ⟨n, -, rfl⟩ := List.mem_map.mp hword
    exact .inl (isHex_of_digit? (digit?_of_mem_digits (by decide) (by decide) hc))

theorem isAddressChar_colons {groups : List Nat} {c : Char} (h : c ∈ colons groups) :
    IsAddressChar c := by
  rcases mem_intercalate h with h | ⟨word, hword, hc⟩
  · exact .inr (.inr (List.mem_singleton.mp h))
  · obtain ⟨n, -, rfl⟩ := List.mem_map.mp hword
    exact .inl (isHex_of_digit? (digit?_of_mem_digits (by decide) (by decide) hc))

theorem not_isAddressChar_slash : ¬IsAddressChar '/' := by
  rintro (h | h | h)
  · cases h
  · cases h
  · cases h

theorem isBlank_of_isAddressChar {c : Char} (h : IsAddressChar c) : isBlank c = false := by
  rcases h with h | rfl | rfl
  · exact isBlank_of_hexDigit? h
  · rfl
  · rfl

namespace Address

theorem writeGroups_eq (groups : List Nat) :
    writeGroups groups =
      if 1 < (elided groups).2 then
        colons (groups.take (elided groups).1) ++ [':', ':'] ++
          colons (groups.drop ((elided groups).1 + (elided groups).2))
      else colons groups := rfl

theorem write_v4 {a : Address} (h : a.family = .v4) : a.write = dotted (a.parts 8) := by
  unfold write
  rw [h]

theorem of_mapped? {a inner : Address} (h : a.mapped? = some inner) :
    a.family = .v6 ∧ a.number / blockSize 32 = 0xFFFF ∧
      inner.family = .v4 ∧ inner.number = a.number % blockSize 32 := by
  unfold mapped? at h
  split at h
  · next hc =>
    rw [← Option.some.inj h]
    exact ⟨hc.1, hc.2, rfl, rfl⟩
  · cases h

theorem write_mapped {a inner : Address} (h : a.mapped? = some inner) :
    a.write = [':', ':', 'f', 'f', 'f', 'f', ':'] ++ dotted (inner.parts 8) := by
  unfold write
  rw [(of_mapped? h).1, h]

theorem write_groups {a : Address} (hf : a.family = .v6) (h : a.mapped? = none) :
    a.write = writeGroups (a.parts 16) := by
  unfold write
  rw [hf, h]

theorem isAddressChar_write {a : Address} {c : Char} (h : c ∈ a.write) : IsAddressChar c := by
  cases hf : a.family with
  | v4 =>
    rw [write_v4 hf] at h
    exact isAddressChar_dotted h
  | v6 =>
    cases hm : a.mapped? with
    | some inner =>
      rw [write_mapped hm, List.mem_append] at h
      rcases h with h | h
      · have hall : [':', ':', 'f', 'f', 'f', 'f', ':'].all (fun c => isHex c || c == ':') =
            true := by decide
        have hc := List.all_eq_true.mp hall c h
        rw [Bool.or_eq_true, beq_iff_eq] at hc
        exact hc.imp_right .inr
      · exact isAddressChar_dotted h
    | none =>
      rw [write_groups hf hm, writeGroups_eq] at h
      split at h
      · simp only [List.mem_append] at h
        rcases h with (h | h) | h
        · exact isAddressChar_colons h
        · right
          right
          simpa using h
        · exact isAddressChar_colons h
      · exact isAddressChar_colons h

theorem slash_notMem_write (a : Address) : '/' ∉ a.write := fun h =>
  not_isAddressChar_slash (isAddressChar_write h)

theorem trim_write (a : Address) : trim a.write = a.write :=
  trim_of_no_blank fun _ hc => isBlank_of_isAddressChar (isAddressChar_write hc)

end Address

/-! ## Reading IPv4 addresses -/

theorem readV4_write (style : AddressStyle) {a : Address} (hf : a.family = .v4) {rest : List Char}
    (hrest : NoDigit rest) : readV4 style (a.write ++ rest) = some (a, rest) := by
  have hread := readOctets_dotted style (Address.length_parts_v4 hf)
    (fun o ho => Address.lt_of_mem_parts ho) hrest
  have hwrap : Address.wrap .v4 (Address.ofParts 8 (a.parts 8)) = a := by
    rw [← hf]
    exact Address.wrap_parts a (by rw [hf]; decide)
  unfold readV4
  rw [Address.write_v4 hf, hread]
  simp only [Option.bind_eq_bind, Option.bind_some, hwrap]

/-! ## Reading IPv6 addresses -/

theorem readSixteens_colons (style : AddressStyle) {groups : List Nat} {rest : List Char}
    (hl : groups.length = 8) (hb : ∀ g ∈ groups, g < 65536) (hrest : GroupsEnd rest) :
    readSixteens style (colons groups ++ rest) = some (groups, rest) := by
  unfold readSixteens
  rw [readGroups_colons style (Nat.le_of_eq hl) hb hrest]
  simp only [hl, if_true]

/-- Zeros are put in for `::`, whatever the groups before and after it are read from. -/
theorem readSixteens_of_head {style : AddressStyle} {cs more rest : List Char}
    {before after : List Nat} (hl : before.length + after.length ≤ 7)
    (hhead : readGroups style true 8 cs = (before, false, ':' :: ':' :: more))
    (htail : ∀ room, after.length ≤ room → readGroups style true room more = (after, false, rest)) :
    readSixteens style cs =
      some (before ++ List.replicate (8 - before.length - after.length) 0 ++ after, rest) := by
  have hroom : after.length ≤
      if style.emptyElision = true then 8 - before.length else 7 - before.length := by
    split <;> omega
  unfold readSixteens
  rw [hhead]
  simp only [show ¬before.length = 8 by omega, if_false, Bool.false_eq_true, readChar_cons,
    Option.bind_eq_bind, Option.bind_some, htail _ hroom]

theorem readSixteens_elided (style : AddressStyle) {before after : List Nat} {rest : List Char}
    (hl : before.length + after.length ≤ 7) (hb : ∀ g ∈ before ++ after, g < 65536)
    (hrest : GroupsEnd rest) :
    readSixteens style (colons before ++ [':', ':'] ++ colons after ++ rest) =
      some (before ++ List.replicate (8 - before.length - after.length) 0 ++ after, rest) := by
  have hhead : readGroups style true 8 (colons before ++ ':' :: ':' :: (colons after ++ rest)) =
      (before, false, ':' :: ':' :: (colons after ++ rest)) :=
    readGroups_colons style (by omega) (fun g hg => hb g (List.mem_append_left _ hg)) (.colons _)
  rw [List.append_assoc, List.append_assoc]
  refine readSixteens_of_head hl hhead ?_
  intro room hroom
  exact readGroups_colons style hroom (fun g hg => hb g (List.mem_append_right _ hg)) hrest

theorem readSixteens_writeGroups (style : AddressStyle) {groups : List Nat} {rest : List Char}
    (hl : groups.length = 8) (hb : ∀ g ∈ groups, g < 65536) (hrest : GroupsEnd rest) :
    readSixteens style (Address.writeGroups groups ++ rest) = some (groups, rest) := by
  rw [Address.writeGroups_eq]
  split
  · next hrun =>
    have hin := (elided_isZeroRun groups).inside
    have hmem : ∀ g ∈ groups.take (elided groups).1 ++
        groups.drop ((elided groups).1 + (elided groups).2), g < 65536 :=
      fun g hg => hb g (mem_of_mem_unelided hg)
    rw [readSixteens_elided style (by simp; omega) hmem hrest]
    have hzeros : 8 - (groups.take (elided groups).1).length -
        (groups.drop ((elided groups).1 + (elided groups).2)).length = (elided groups).2 := by
      simp
      omega
    rw [hzeros, elided_eq]
  · exact readSixteens_colons style hl hb hrest

/-- The groups of an IPv6 address that stands for an IPv4 address, from the numbers of that. -/
def mappedGroups (octets : List Nat) : List Nat :=
  [0, 0, 0, 0, 0, 0xFFFF, readGroups.ofPair octets 0, readGroups.ofPair octets 2]

theorem readGroups_dotted (style : AddressStyle) (room : Nat) {octets : List Nat} {rest : List Char}
    (hl : octets.length = 4) (hb : ∀ o ∈ octets, o < 256) (hrest : NoDigit rest) :
    readGroups style false (room + 2) (':' :: (dotted octets ++ rest)) =
      ([readGroups.ofPair octets 0, readGroups.ofPair octets 2], true, rest) := by
  have hroom : ¬room + 1 = 0 := Nat.succ_ne_zero room
  rw [readGroups, if_neg hroom, afterColon_cons, readOctets_dotted style hl hb hrest]

theorem readGroups_mapped (style : AddressStyle) (room : Nat) {octets : List Nat} {rest : List Char}
    (hl : octets.length = 4) (hb : ∀ o ∈ octets, o < 256) (hrest : NoDigit rest) :
    readGroups style true (room + 3) ('f' :: 'f' :: 'f' :: 'f' :: ':' :: (dotted octets ++ rest)) =
      ([0xFFFF, readGroups.ofPair octets 0, readGroups.ofPair octets 2], true, rest) := by
  have hword : IsGroupWord ['f', 'f', 'f', 'f'] := by decide
  have hvalue : value 16 ['f', 'f', 'f', 'f'] = 0xFFFF := by decide
  have hread := readGroups_word style (room + 2) hword (wordEnd_colon (dotted octets ++ rest))
  rw [readGroups_dotted style room hl hb hrest, hvalue] at hread
  exact hread

theorem readSixteens_mapped (style : AddressStyle) {octets : List Nat} {rest : List Char}
    (hl : octets.length = 4) (hb : ∀ o ∈ octets, o < 256) (hrest : NoDigit rest) :
    readSixteens style ([':', ':', 'f', 'f', 'f', 'f', ':'] ++ dotted octets ++ rest) =
      some (mappedGroups octets, rest) := by
  have hhead := readGroups_groupsEnd style true 8
    (.colons ('f' :: 'f' :: 'f' :: 'f' :: ':' :: (dotted octets ++ rest)))
  have hroom : (if style.emptyElision = true then 8 - 0 else 7 - 0) =
      (if style.emptyElision = true then 5 else 4) + 3 := by split <;> rfl
  have htail := readGroups_mapped style (if style.emptyElision = true then 5 else 4) hl hb hrest
  unfold readSixteens
  simp only [List.cons_append, List.nil_append, hhead, List.length_nil,
    Nat.reduceEqDiff, if_false, Bool.false_eq_true, readChar_cons, Option.bind_eq_bind,
    Option.bind_some, hroom, htail]
  rfl

theorem ofParts_mappedGroups {octets : List Nat} (hl : octets.length = 4) :
    Address.ofParts 16 (mappedGroups octets) =
      0xFFFF * blockSize 32 + Address.ofParts 8 octets := by
  match octets, hl with
  | [a, b, c, d], _ =>
    simp [Address.ofParts, mappedGroups, readGroups.ofPair, blockSize]
    omega

theorem readSixteens_write (style : AddressStyle) {a : Address} (hf : a.family = .v6)
    {rest : List Char} (hrest : GroupsEnd rest) :
    ∃ groups, readSixteens style (a.write ++ rest) = some (groups, rest) ∧
      Address.ofParts 16 groups = a.number := by
  cases hm : a.mapped? with
  | some inner =>
    obtain ⟨-, hhigh, hfour, hlow⟩ := Address.of_mapped? hm
    have hlen := Address.length_parts_v4 hfour
    refine ⟨mappedGroups (inner.parts 8), ?_, ?_⟩
    · rw [Address.write_mapped hm]
      exact readSixteens_mapped style hlen (fun o ho => Address.lt_of_mem_parts ho)
        (noDigit_of_groupsEnd hrest)
    · calc Address.ofParts 16 (mappedGroups (inner.parts 8))
          = 0xFFFF * blockSize 32 + Address.ofParts 8 (inner.parts 8) := ofParts_mappedGroups hlen
        _ = 0xFFFF * blockSize 32 + inner.number := by
            rw [Address.ofParts_parts inner (by rw [hfour]; decide)]
        _ = a.number / blockSize 32 * blockSize 32 + a.number % blockSize 32 := by
            rw [hlow, hhigh]
        _ = a.number := Nat.div_add_mod' _ _
  | none =>
    refine ⟨a.parts 16, ?_, Address.ofParts_parts a (by rw [hf]; decide)⟩
    rw [Address.write_groups hf hm]
    exact readSixteens_writeGroups style (Address.length_parts_v6 hf)
      (fun g hg => Address.lt_of_mem_parts hg) hrest

theorem readV6_write (style : AddressStyle) {a : Address} (hf : a.family = .v6) {rest : List Char}
    (hrest : GroupsEnd rest) : readV6 style (a.write ++ rest) = some (a, rest) := by
  obtain ⟨groups, hread, hnumber⟩ := readSixteens_write style hf hrest
  have hwrap : Address.wrap .v6 a.number = a := by
    unfold Address.wrap
    rw [← hf]
    simp only [Nat.mod_eq_of_lt a.number_lt]
  unfold readV6
  rw [hread]
  simp only [Option.bind_eq_bind, Option.bind_some, hnumber, hwrap]

theorem readOctets_colons (style : AddressStyle) {groups : List Nat} {rest : List Char}
    (hb : ∀ g ∈ groups, g < 65536) (hrest : WordEnd rest) :
    readOctets style (colons groups ++ rest) = none := by
  cases groups with
  | nil => exact readOctets_noDigit style hrest.noDigit
  | cons g groups =>
    rw [colons_cons, List.append_assoc]
    exact readOctets_word style (isGroupWord_digits (hb g List.mem_cons_self))
      (wordEnd_ledGroups groups hrest)

theorem readOctets_writeGroups (style : AddressStyle) {groups : List Nat} {rest : List Char}
    (hb : ∀ g ∈ groups, g < 65536) (hrest : GroupsEnd rest) :
    readOctets style (Address.writeGroups groups ++ rest) = none := by
  rw [Address.writeGroups_eq]
  split
  · rw [List.append_assoc, List.append_assoc]
    exact readOctets_colons style (fun g hg => hb g (List.mem_of_mem_take hg)) (wordEnd_colon _)
  · exact readOctets_colons style hb (wordEnd_of_groupsEnd hrest)

theorem readV4_write_v6 (style : AddressStyle) {a : Address} (hf : a.family = .v6)
    {rest : List Char} (hrest : GroupsEnd rest) : readV4 style (a.write ++ rest) = none := by
  have hstart : readOctets style (a.write ++ rest) = none := by
    cases hm : a.mapped? with
    | some inner =>
      rw [Address.write_mapped hm]
      exact readOctets_noDigit style (noDigit_cons rfl _)
    | none =>
      rw [Address.write_groups hf hm]
      exact readOctets_writeGroups style (fun g hg => Address.lt_of_mem_parts hg) hrest
  unfold readV4
  rw [hstart]
  rfl

/-! ## Whole texts -/

namespace Address

theorem ofChars?_write (a : Address) : ofChars? a.write = some a := by
  unfold ofChars?
  cases hf : a.family with
  | v4 =>
    have hread := readV4_write .plain hf noDigit_nil
    rw [List.append_nil] at hread
    rw [hread]
    rfl
  | v6 =>
    have hfour := readV4_write_v6 .plain hf .nothing
    have hread := readV6_write .plain hf .nothing
    rw [List.append_nil] at hfour hread
    rw [hfour]
    simp only [whole, hread]

theorem ofChars?_eq_none {cs : List Char} (h : '/' ∈ cs) : ofChars? cs = none := by
  unfold ofChars?
  split
  · next rest heq =>
    have hmem := ((Consumes.v4 .plain).leaves heq).mem_rest h
      fun hc => not_isAddressChar_slash (isAddressChar_of_isOctetChar hc)
    rw [if_neg]
    intro hempty
    rw [List.isEmpty_iff.mp hempty] at hmem
    exact absurd hmem List.not_mem_nil
  · exact (Consumes.v6 .plain).whole_eq_none h not_isAddressChar_slash

theorem write_injective {a b : Address} (h : a.write = b.write) : a = b := by
  have := ofChars?_write a
  rw [h, ofChars?_write b] at this
  exact (Option.some.inj this).symm

theorem toString_inj {a b : Address} : toString a = toString b ↔ a = b := by
  constructor
  · exact fun h => write_injective (String.ofList_injective h)
  · rintro rfl
    rfl

end Address

end TagRules.Net
