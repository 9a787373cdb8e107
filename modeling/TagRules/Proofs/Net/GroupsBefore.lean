import TagRules.Proofs.Net.WordBefore

/-
  Groups and a colon before a written address.

  The text may be an IPv6 address with the groups as its first.  `ofChars?_groups` says exactly
  when, for up to five groups: the address has to be written with `::` after its first group
  (`Address.ElidesLater`), and `::` has to leave out more groups than there are before it.
  Otherwise there are too many groups, or three colons, or an IPv4 address that comes too early.

  Groups with colons between them are cut at one of these colons (`exists_take_of_colons`), and
  fewer than eight of them are no address without `::` (`ofChars?_few`).
-/

namespace TagRules.Net

open Text

/-! ## Groups with colons between -/

theorem colons_append {before after : List Nat} (hb : before ≠ []) (ha : after ≠ []) :
    colons (before ++ after) = colons before ++ ':' :: colons after := by
  cases before with
  | nil => exact absurd rfl hb
  | cons g before =>
    rw [colon_colons ha, List.cons_append, colons_cons, colons_cons]
    simp [ledGroups]

theorem colons_ne_nil {groups : List Nat} (h : groups ≠ []) : colons groups ≠ [] := by
  cases groups with
  | nil => exact absurd rfl h
  | cons g groups =>
    rw [colons_cons]
    exact List.append_ne_nil_of_left_ne_nil (digits_ne_nil g) _

theorem colon_notMem_digits {radix : Nat} (hr : 1 < radix) (hr' : radix ≤ 16) (n : Nat) :
    ':' ∉ digits radix n := by
  intro h
  have hdigit := digit?_of_mem_digits hr hr' h
  rw [digit?_none (by decide : hexDigit? ':' = none)] at hdigit
  cases hdigit

theorem colon_notMem_dotted (octets : List Nat) : ':' ∉ dotted octets := by
  intro h
  rcases mem_intercalate h with h | ⟨word, hword, hc⟩
  · exact absurd h (by decide)
  · obtain ⟨n, -, rfl⟩ := List.mem_map.mp hword
    exact colon_notMem_digits (by decide) (by decide) n hc

/-- By induction on the groups: there are colons between them and nowhere else. -/
theorem exists_take_of_colons {groups : List Nat} {before after : List Char}
    (h : colons groups = before ++ ':' :: after) :
    ∃ i, 0 < i ∧ i < groups.length ∧ before = colons (groups.take i) ∧
      after = colons (groups.drop i) := by
  induction groups generalizing before with
  | nil => simp [colons_nil] at h
  | cons g rest ih =>
    have hplain : ':' ∉ digits 16 g := colon_notMem_digits (by decide) (by decide) g
    cases rest with
    | nil =>
      -- One group has no colon.
      rw [show colons [g] = digits 16 g by simp [colons_cons, ledGroups]] at h
      exact absurd (h ▸ by simp) hplain
    | cons g' rest =>
      have hsplit : colons (g :: g' :: rest) = digits 16 g ++ ':' :: colons (g' :: rest) := by
        rw [colon_colons (by simp), colons_cons]
      rw [hsplit] at h
      -- The cut is within the first group, right after it, or in the others.
      rcases cut_cases h with ⟨more, hdigits, -⟩ | ⟨rfl, rfl⟩ | ⟨more, rfl, hmore⟩
      · exact absurd (hdigits ▸ by simp) hplain
      · exact ⟨1, by simp, by simp, by simp [colons_cons, ledGroups], rfl⟩
      · obtain ⟨i, hi, hlt, rfl, rfl⟩ := ih hmore
        refine ⟨i + 1, by omega, by simpa using hlt, ?_, rfl⟩
        have hne : (g' :: rest).take i ≠ [] := by
          apply List.ne_nil_of_length_pos
          simp
          omega
        rw [List.take_succ_cons, colons_cons, ← colon_colons hne]

/-! ## Reading groups -/

variable {style : AddressStyle} {groups : List Nat} {more rest : List Char}

theorem left_ne_nil_of_room {room : Nat} (style : AddressStyle) (hroom : room < groups.length)
    (hb : ∀ g ∈ groups, g < 65536) : (readGroups style true room (colons groups)).2.2 ≠ [] := by
  have hne : groups ≠ [] := List.ne_nil_of_length_pos (by omega)
  cases room with
  | zero => exact colons_ne_nil hne
  | succ room =>
    have hread := readGroups_colons_take style room hne hb .nothing
    have hdrop : groups.drop (room + 1) ≠ [] := List.ne_nil_of_length_pos (by simp; omega)
    rw [List.append_nil] at hread
    rw [hread, List.append_nil, ← colon_colons hdrop]
    exact List.cons_ne_nil _ _

/-! ## Texts that are no address -/

namespace Address

variable {cs : List Char}

theorem ofChars?_eq_whole (h : readOctets .plain cs = none) :
    ofChars? cs = whole (readV6 .plain) cs := by
  unfold ofChars? readV4
  rw [h]
  rfl

theorem ofChars?_eq_none_of_left (h : readOctets .plain cs = none)
    (hleft : ∀ {parts left}, readSixteens .plain cs = some (parts, left) → left ≠ []) :
    ofChars? cs = none := by
  rw [ofChars?_eq_whole h]
  unfold whole readV6
  cases hread : readSixteens .plain cs with
  | none => rfl
  | some answer =>
    obtain ⟨parts, left⟩ := answer
    cases left with
    | nil => exact absurd rfl (hleft hread)
    | cons c left => rfl

/-- Groups without `::` have to be eight. -/
theorem ofChars?_few (hl : groups.length < 8) (hb : ∀ g ∈ groups, g < 65536) :
    ofChars? (colons groups) = none := by
  have hoctets := readOctets_colons .plain hb (wordEnd_of_groupsEnd .nothing)
  have hread := readGroups_colons .plain (Nat.le_of_lt hl) hb .nothing
  rw [List.append_nil] at hoctets hread
  have hsixteens := readSixteens_eq_none hread (Nat.ne_of_lt hl) (.inr nofun)
  refine ofChars?_eq_none_of_left hoctets fun hsome => ?_
  rw [hsixteens] at hsome
  cases hsome

theorem ofChars?_few_colon (hl : groups.length < 8) (hb : ∀ g ∈ groups, g < 65536) :
    ofChars? (colons groups ++ [':']) = none := by
  have hstop : ∀ {α : Type} (first : Bool) {inner : Reader α},
      (∀ {rest}, NoDigit rest → inner rest = none) → afterColon first inner [':'] = none := by
    intro α first inner hinner
    cases first with
    | true => exact hinner (noDigit_cons rfl [])
    | false =>
      rw [afterColon_cons]
      exact hinner noDigit_nil
  -- So the colon is left, whether it is all of the text or comes after a group.
  have hend : ∀ first room, readGroups .plain first room [':'] = ([], false, [':']) :=
    fun first room => readGroups_stop .plain room (hstop first (readOctets_noDigit .plain))
      (hstop first readGroup_noDigit)
  have hread : readGroups .plain true 8 (colons groups ++ [':']) = (groups, false, [':']) := by
    by_cases hne : groups = []
    · rw [hne]
      exact hend true 8
    · have hmore := readGroups_colons_more .plain (8 - groups.length) hne hb (wordEnd_colon [])
      rw [Nat.add_sub_cancel' (Nat.le_of_lt hl), hend, List.append_nil] at hmore
      exact hmore
  refine ofChars?_eq_none_of_left (readOctets_colons .plain hb (wordEnd_colon []))
    fun hsome => ?_
  unfold readSixteens at hsome
  rw [hread] at hsome
  simp [Nat.ne_of_lt hl, readChar] at hsome

theorem ofChars?_many (hl : 8 < groups.length) (hb : ∀ g ∈ groups, g < 65536) :
    ofChars? (colons groups) = none := by
  have hne : groups ≠ [] := List.ne_nil_of_length_pos (by omega)
  have hoctets := readOctets_colons .plain hb (wordEnd_of_groupsEnd .nothing)
  have hread := readGroups_colons_take .plain 7 hne hb .nothing
  rw [List.append_nil] at hoctets hread
  have hfull : (groups.take 8).length = 8 := by
    simp
    omega
  refine ofChars?_eq_none_of_left hoctets fun hsome => ?_
  have hleft := left_ne_nil_of_room .plain hl hb
  unfold readSixteens at hsome
  rw [hread] at hsome hleft
  simp only [hfull, if_true, Option.some.injEq, Prod.mk.injEq] at hsome
  rwa [← hsome.2]

/-- After three colons the third is left over. -/
theorem ofChars?_three_colons (hl : groups.length < 8)
    (hb : ∀ g ∈ groups, g < 65536) (more : List Char) :
    ofChars? (colons groups ++ ':' :: ':' :: ':' :: more) = none := by
  have hend : NoDigit (':' :: more) := noDigit_cons rfl more
  have hhead := readGroups_colons .plain (Nat.le_of_lt hl) hb (.colons (':' :: more))
  have hread := readSixteens_of_head (by simp; omega) hhead fun room _ =>
    readGroups_stop .plain room (readOctets_noDigit .plain hend) (readGroup_noDigit hend)
  refine ofChars?_eq_none_of_left (readOctets_colons .plain hb (wordEnd_colon _)) fun hsome => ?_
  rw [hread] at hsome
  rw [← (Prod.mk.inj (Option.some.inj hsome)).2]
  simp

/-- An IPv4 address may stand for the last two groups only. -/
theorem ofChars?_groups_dotted (hne : groups ≠ []) (hl : groups.length < 6)
    (hb : ∀ g ∈ groups, g < 65536) {octets : List Nat} (ho : octets.length = 4)
    (ho' : ∀ o ∈ octets, o < 256) : ofChars? (colons groups ++ ':' :: dotted octets) = none := by
  have hend : WordEnd (':' :: dotted octets) := wordEnd_colon _
  -- It counts for two groups and ends the reading, here before there are eight.
  have hlast := readGroups_dotted .plain (6 - groups.length) ho ho' noDigit_nil
  rw [List.append_nil] at hlast
  have hread := readGroups_colons_more .plain (6 - groups.length + 2) hne hb hend
  rw [hlast, show groups.length + (6 - groups.length + 2) = 8 by omega] at hread
  have hsixteens := readSixteens_eq_none hread (by simp; omega) (.inl rfl)
  refine ofChars?_eq_none_of_left (readOctets_colons .plain hb hend) fun hsome => ?_
  rw [hsixteens] at hsome
  cases hsome

/-! ## Texts with `::` -/

/-- The address that is written with these groups before and after `::`. -/
def ofElided (before after : List Nat) : Address :=
  wrap .v6 (ofParts 16 (before ++ List.replicate (8 - before.length - after.length) 0 ++ after))

variable {before after : List Nat}

theorem ofChars?_elided (hl : before.length + after.length ≤ 7)
    (hb : ∀ g ∈ before ++ after, g < 65536) :
    ofChars? (colons before ++ [':', ':'] ++ colons after) = some (ofElided before after) := by
  have hoctets : readOctets .plain (colons before ++ [':', ':'] ++ colons after) = none := by
    rw [List.append_assoc]
    exact readOctets_colons .plain (fun g hg => hb g (List.mem_append_left _ hg))
      (wordEnd_colon _)
  have hread := readSixteens_elided .plain hl hb .nothing
  rw [List.append_nil] at hread
  rw [ofChars?_eq_whole hoctets]
  unfold whole readV6
  rw [hread]
  rfl

/-- Where `::` would leave out nothing, some of the text is left over. -/
theorem ofChars?_elided_many (hne : before ≠ []) (hl : 7 < before.length + after.length)
    (hb : ∀ g ∈ before ++ after, g < 65536) :
    ofChars? (colons before ++ [':', ':'] ++ colons after) = none := by
  have hb' : ∀ g ∈ before, g < 65536 := fun g hg => hb g (List.mem_append_left _ hg)
  have hcolons : GroupsEnd ([':', ':'] ++ colons after) := .colons _
  rw [List.append_assoc]
  refine ofChars?_eq_none_of_left (readOctets_colons .plain hb' (wordEnd_colon _)) fun hsome => ?_
  unfold readSixteens at hsome
  -- With eight groups before it `::` itself is left over, else some group after it.
  by_cases hfull : 8 ≤ before.length
  · have hlen : (before.take 8).length = 8 := by
      simp
      omega
    rw [readGroups_colons_take .plain 7 hne hb' hcolons] at hsome
    simp only [hlen, if_true, Option.some.injEq, Prod.mk.injEq] at hsome
    rw [← hsome.2]
    simp
  · have hlen : ¬before.length = 8 := by omega
    rw [readGroups_colons .plain (by omega) hb' hcolons] at hsome
    simp only [hlen, if_false, List.cons_append, List.nil_append, Bool.false_eq_true, readChar_cons,
      Option.bind_eq_bind, Option.bind_some, AddressStyle.plain, Option.some.injEq,
      Prod.mk.injEq] at hsome
    rw [← hsome.2]
    exact left_ne_nil_of_room .plain (by omega) fun g hg => hb g (List.mem_append_right _ hg)

/-! ## Written addresses -/

/-- The groups that are written before `::`. -/
def leading (a : Address) : List Nat := (a.parts 16).take (elided (a.parts 16)).1

/-- The groups that are written after `::`. -/
def trailing (a : Address) : List Nat :=
  (a.parts 16).drop ((elided (a.parts 16)).1 + (elided (a.parts 16)).2)

/-- Whether the address is written with `::`, and without an IPv4 address after it. -/
structure Elides (a : Address) : Prop where
  family : a.family = .v6
  notMapped : a.mapped? = none
  some : 1 < (elided (a.parts 16)).2

instance (a : Address) : Decidable a.Elides :=
  decidable_of_iff (a.family = .v6 ∧ a.mapped? = none ∧ 1 < (elided (a.parts 16)).2)
    ⟨fun h => ⟨h.1, h.2.1, h.2.2⟩, fun h => ⟨h.family, h.notMapped, h.some⟩⟩

theorem lt_of_mem_written {a : Address} {g : Nat} (h : g ∈ a.leading ++ a.trailing) :
    g < 65536 := lt_of_mem_parts (mem_of_mem_unelided h)

theorem ElidesLater.elides {a : Address} (h : a.ElidesLater) : a.Elides :=
  ⟨h.family, h.notMapped, h.some⟩

namespace Elides

variable {a : Address}

theorem write_eq (h : a.Elides) :
    a.write = colons a.leading ++ [':', ':'] ++ colons a.trailing := by
  rw [write_groups h.family h.notMapped, writeGroups_eq, if_pos h.some]
  rfl

theorem length_le (h : a.Elides) : a.leading.length + a.trailing.length ≤ 6 := by
  have hlen := length_parts_v6 h.family
  have hin := (elided_isZeroRun (a.parts 16)).inside
  have hsome := h.some
  unfold leading trailing
  rw [List.length_take, List.length_drop]
  omega

theorem ofElided_eq (h : a.Elides) : ofElided a.leading a.trailing = a := by
  have hread := ofChars?_elided (Nat.le_succ_of_le h.length_le) fun _ hg => lt_of_mem_written hg
  rw [← h.write_eq, ofChars?_write] at hread
  exact (Option.some.inj hread).symm

end Elides

theorem elidesLater_iff {a : Address} : a.ElidesLater ↔ a.Elides ∧ a.leading ≠ [] := by
  have hlength : a.family = .v6 → (a.leading ≠ [] ↔ 0 < (elided (a.parts 16)).1) := by
    intro hf
    rw [← List.length_pos_iff]
    unfold leading
    rw [List.length_take, length_parts_v6 hf]
    omega
  constructor
  · exact fun h => ⟨h.elides, (hlength h.family).mpr h.later⟩
  · exact fun h => ⟨h.1.family, h.1.notMapped, (hlength h.1.family).mp h.2, h.1.some⟩

/-- How an address is written: as an IPv4 address, with an IPv4 address at the end, with all eight
groups, or with `::`. -/
inductive Written (a : Address) : Prop where
  | v4 (octets : List Nat) (write : a.write = dotted octets) (length : octets.length = 4)
    (bound : ∀ o ∈ octets, o < 256) (plain : ¬a.Elides)
  | mapped (octets : List Nat)
    (write : a.write = [':', ':', 'f', 'f', 'f', 'f', ':'] ++ dotted octets)
    (length : octets.length = 4) (bound : ∀ o ∈ octets, o < 256) (plain : ¬a.Elides)
  | full (groups : List Nat) (write : a.write = colons groups) (length : groups.length = 8)
    (bound : ∀ g ∈ groups, g < 65536) (plain : ¬a.Elides)
  | elided (elides : a.Elides)

theorem written (a : Address) : a.Written := by
  cases hf : a.family with
  | v4 =>
    exact .v4 (a.parts 8) (write_v4 hf) (length_parts_v4 hf) (fun _ ho => lt_of_mem_parts ho)
      fun h => by cases hf.symm.trans h.family
  | v6 =>
    cases hm : a.mapped? with
    | some inner =>
      exact .mapped (inner.parts 8) (write_mapped hm) (length_parts_v4 (of_mapped? hm).2.2.1)
        (fun _ ho => lt_of_mem_parts ho) fun h => by cases hm.symm.trans h.notMapped
    | none =>
      by_cases hsome : 1 < (Net.elided (a.parts 16)).2
      · exact .elided ⟨hf, hm, hsome⟩
      · have hwrite : a.write = colons (a.parts 16) := by
          rw [write_groups hf hm, writeGroups_eq, if_neg hsome]
        exact .full (a.parts 16) hwrite (length_parts_v6 hf) (fun _ hg => lt_of_mem_parts hg)
          fun h => hsome h.some

/-- If the address is written with `::`, it has to begin with a group, and the others have to fit
before that. -/
theorem ofChars?_groups_elided (hne : groups ≠ []) (hl : groups.length ≤ 5)
    (hb : ∀ g ∈ groups, g < 65536) {a : Address} (h : a.Elides) :
    ofChars? (colons groups ++ ':' :: a.write) =
      if a.ElidesLater ∧ groups.length + a.leading.length + a.trailing.length ≤ 7 then
        some (ofElided (groups ++ a.leading) a.trailing)
      else none := by
  rw [h.write_eq]
  by_cases hlead : a.leading = []
  · rw [if_neg fun hlater => (elidesLater_iff.mp hlater.1).2 hlead, hlead]
    exact ofChars?_three_colons (by omega) hb _
  · have hjoin : colons groups ++ ':' :: (colons a.leading ++ [':', ':'] ++ colons a.trailing) =
        colons (groups ++ a.leading) ++ [':', ':'] ++ colons a.trailing := by
      rw [colons_append hne hlead]
      simp
    have hall : ∀ g ∈ groups ++ a.leading ++ a.trailing, g < 65536 := by
      intro g hg
      rw [List.append_assoc] at hg
      rcases List.mem_append.mp hg with hg | hg
      · exact hb g hg
      · exact lt_of_mem_written hg
    rw [hjoin]
    split
    · next hfit => exact ofChars?_elided (by simpa using hfit.2) hall
    · next hfit =>
      refine ofChars?_elided_many (by simp [hne]) ?_ hall
      rw [List.length_append]
      exact Nat.lt_of_not_le fun hle => hfit ⟨elidesLater_iff.mpr ⟨h, hlead⟩, hle⟩

/-- Up to five groups before a written address are the first groups of an address only if some are
left out after its first group, and more of them than there are groups before it. -/
theorem ofChars?_groups (hne : groups ≠ []) (hl : groups.length ≤ 5)
    (hb : ∀ g ∈ groups, g < 65536) (a : Address) :
    ofChars? (colons groups ++ ':' :: a.write) =
      if a.ElidesLater ∧ groups.length + a.leading.length + a.trailing.length ≤ 7 then
        some (ofElided (groups ++ a.leading) a.trailing)
      else none := by
  cases a.written with
  | v4 octets hwrite hlength hbound hplain =>
    rw [if_neg fun h => hplain h.1.elides, hwrite]
    exact ofChars?_groups_dotted hne (by omega) hb hlength hbound
  | mapped octets hwrite hlength hbound hplain =>
    rw [if_neg fun h => hplain h.1.elides, hwrite]
    exact ofChars?_three_colons (by omega) hb _
  | full eight hwrite hlength hbound hplain =>
    have height : eight ≠ [] := List.ne_nil_of_length_pos (by omega)
    have hpos := List.length_pos_iff.mpr hne
    rw [if_neg fun h => hplain h.1.elides, hwrite, ← colons_append hne height]
    refine ofChars?_many (by rw [List.length_append]; omega) fun g hg => ?_
    rcases List.mem_append.mp hg with hg | hg
    · exact hb g hg
    · exact hbound g hg
  | elided h => exact ofChars?_groups_elided hne hl hb h

end Address

end TagRules.Net
