import TagRules.Proofs.Net.GroupsBefore

/-
  Two written addresses with a colon between them.

  Both may have colons of their own, so the text may be two addresses in several ways.  The
  first colon that has an address before it and one after it divides them (`FirstSplit`).
  `firstSplit_write` says which addresses these are: the two that were written, unless the first
  ends in two groups or more after its `::` and the second leaves out some groups later.  Then
  the colon comes after the first of these groups from which the second has room for the others.
-/

namespace TagRules.Net.Address

open Text

/-- A text is two addresses with a colon between them, and no colon before that has one on each
side. -/
inductive FirstSplit : List Char → Address → Address → Prop where
  | mk {left right : List Char} {first second : Address} (left_eq : ofChars? left = some first)
    (right_eq : ofChars? right = some second)
    (earlier : ∀ before after, left = before ++ ':' :: after →
      ofChars? before = none ∨ ofChars? (after ++ ':' :: right) = none) :
    FirstSplit (left ++ ':' :: right) first second

/-- Whether at least two groups are written after `::`. -/
structure EndsInGroups (a : Address) : Prop where
  elides : a.Elides
  two : 1 < a.trailing.length

instance (a : Address) : Decidable a.EndsInGroups :=
  decidable_of_iff (a.Elides ∧ 1 < a.trailing.length)
    ⟨fun h => ⟨h.1, h.2⟩, fun h => ⟨h.elides, h.two⟩⟩

/-- How many groups after its `::` the first address keeps, if the others go over to the second: as
few as the second has room for, and one at least. -/
def kept (first second : Address) : Nat :=
  max 1 (first.trailing.length + second.leading.length + second.trailing.length - 7)

def staying (first second : Address) : List Nat := first.trailing.take (kept first second)

def leaving (first second : Address) : List Nat := first.trailing.drop (kept first second)

/-- The two addresses after groups went over. -/
def moved (first second : Address) : Address × Address :=
  (ofElided first.leading (staying first second),
    ofElided (leaving first second ++ second.leading) second.trailing)

/-! ## Where a written address can be cut -/

variable {before after : List Nat} {cs rest : List Char}

/-- Cut before `::` or within it, it is no address; so the cut is between groups after it. -/
theorem ofChars?_cut_elided (hl : before.length + after.length ≤ 7)
    (hb : ∀ g ∈ before ++ after, g < 65536)
    (h : colons before ++ [':', ':'] ++ colons after = cs ++ ':' :: rest) :
    ofChars? cs = none ∨ ∃ i, 0 < i ∧ i < after.length ∧ rest = colons (after.drop i) := by
  have hb' : ∀ g ∈ before, g < 65536 := fun g hg => hb g (List.mem_append_left _ hg)
  rw [List.append_assoc] at h
  -- Cut before `::`, at its first colon, or later.
  rcases cut_cases h with ⟨more, hbefore, -⟩ | ⟨rfl, -⟩ | ⟨more, rfl, hmore⟩
  · obtain ⟨i, -, hi, rfl, -⟩ := exists_take_of_colons hbefore
    refine .inl (ofChars?_few (by simp; omega) fun g hg => hb' g (List.mem_of_mem_take hg))
  · exact .inl (ofChars?_few (by omega) hb')
  · have hsecond : [] ++ ':' :: colons after = more ++ ':' :: rest := hmore
    rcases cut_cases hsecond with ⟨more', hnil, -⟩ | ⟨rfl, -⟩ | ⟨more', rfl, hafter⟩
    · cases more <;> cases hnil
    · exact .inl (ofChars?_few_colon (by omega) hb')
    · obtain ⟨i, hi, hlt, -, rfl⟩ := exists_take_of_colons hafter
      exact .inr ⟨i, hi, hlt, rfl⟩

theorem ofChars?_dotted_colon {octets : List Nat} (hl : octets.length = 4)
    (hb : ∀ o ∈ octets, o < 256) (more : List Char) :
    ofChars? (dotted octets ++ ':' :: more) = none := by
  have hread := readOctets_dotted .plain hl hb (noDigit_cons rfl more : NoDigit (':' :: more))
  unfold ofChars? readV4
  rw [hread]
  rfl

/-- Cut at one of its own colons the text is not two addresses, unless the first address gives
groups to the second. -/
theorem ofChars?_cut_write {first second : Address}
    (hplain : ¬(first.EndsInGroups ∧ second.ElidesLater)) (h : first.write = cs ++ ':' :: rest) :
    ofChars? cs = none ∨ ofChars? (rest ++ ':' :: second.write) = none := by
  cases first.written with
  | v4 octets hwrite =>
    rw [hwrite] at h
    exact absurd (h ▸ by simp) (colon_notMem_dotted octets)
  | mapped octets hwrite hlength hbound =>
    -- What comes before the IPv4 address is written with one group after `::`.
    have hsplit : [':', ':', 'f', 'f', 'f', 'f', ':'] ++ dotted octets =
        colons [] ++ [':', ':'] ++ colons [0xFFFF] ++ ':' :: dotted octets := by
      rw [show colons [0xFFFF] = ['f', 'f', 'f', 'f'] by decide]
      rfl
    rw [hwrite, hsplit] at h
    rcases cut_cases h with ⟨more, hbefore, -⟩ | ⟨-, rfl⟩ | ⟨more, -, hafter⟩
    · rcases ofChars?_cut_elided (by decide) (by decide) hbefore with hnone | ⟨i, hi, hlt, -⟩
      · exact .inl hnone
      · exact absurd hlt (by rw [List.length_singleton]; omega)
    · exact .inr (ofChars?_dotted_colon hlength hbound _)
    · exact absurd (hafter ▸ by simp) (colon_notMem_dotted octets)
  | full groups hwrite hlength hbound =>
    rw [hwrite] at h
    obtain ⟨i, -, hi, rfl, -⟩ := exists_take_of_colons h
    exact .inl (ofChars?_few (by simp; omega) fun g hg => hbound g (List.mem_of_mem_take hg))
  | elided he =>
    rw [he.write_eq] at h
    have hfit := he.length_le
    rcases ofChars?_cut_elided (by omega) (fun _ hg => lt_of_mem_written hg) h with
      hnone | ⟨i, hi, hlt, rfl⟩
    · exact .inl hnone
    · -- A cut between two groups after `::` needs two of them.
      have hlater : ¬second.ElidesLater := fun hlater => hplain ⟨⟨he, by omega⟩, hlater⟩
      have hne : first.trailing.drop i ≠ [] := List.ne_nil_of_length_pos (by simp; omega)
      have hbound : ∀ g ∈ first.trailing.drop i, g < 65536 := fun g hg =>
        lt_of_mem_written (List.mem_append_right _ (List.mem_of_mem_drop hg))
      refine .inr ?_
      rw [ofChars?_groups hne (by simp; omega) hbound, if_neg fun hfit => hlater hfit.1]

/-! ## The pair that is read -/

section

variable {first second : Address}

theorem staying_append_leaving (first second : Address) :
    staying first second ++ leaving first second = first.trailing := List.take_append_drop _ _

theorem lt_of_mem_trailing {a : Address} {g : Nat} (h : g ∈ a.trailing) : g < 65536 :=
  lt_of_mem_written (List.mem_append_right _ h)

theorem lt_of_mem_leaving {g : Nat} (h : g ∈ leaving first second) : g < 65536 :=
  lt_of_mem_trailing (List.mem_of_mem_drop h)

theorem lt_of_mem_leading_staying {g : Nat} (h : g ∈ first.leading ++ staying first second) :
    g < 65536 := by
  rcases List.mem_append.mp h with h | h
  · exact lt_of_mem_written (List.mem_append_left _ h)
  · exact lt_of_mem_trailing (List.mem_of_mem_take h)

theorem length_moved (h : first.EndsInGroups) (h' : second.ElidesLater) :
    0 < (staying first second).length ∧ 0 < (leaving first second).length ∧
      (leaving first second).length + second.leading.length + second.trailing.length ≤ 7 ∧
      ∀ i, 0 < i → i < (staying first second).length →
        7 < (first.trailing.drop i).length + second.leading.length + second.trailing.length := by
  have htwo := h.two
  have hfit := h'.elides.length_le
  unfold staying leaving
  simp only [List.length_take, List.length_drop]
  unfold kept
  exact ⟨by omega, by omega, by omega, fun i _ _ => by omega⟩

/-- Cut at an earlier colon there are more groups than the second address has room for. -/
theorem ofChars?_cut_staying (h : first.EndsInGroups) (h' : second.ElidesLater)
    (hcut : colons first.leading ++ [':', ':'] ++ colons (staying first second) =
      cs ++ ':' :: rest) :
    ofChars? cs = none ∨
      ofChars? (rest ++ ':' :: (colons (leaving first second) ++ ':' :: second.write)) = none := by
  have hfit := h.elides.length_le
  have hall := congrArg List.length (staying_append_leaving first second)
  rw [List.length_append] at hall
  obtain ⟨-, hleaving, -, hmany⟩ := length_moved h h'
  rcases ofChars?_cut_elided (by omega) (fun _ hg => lt_of_mem_leading_staying hg) hcut with
    hnone | ⟨i, hi, hlt, rfl⟩
  · exact .inl hnone
  · have hjoin : colons ((staying first second).drop i) ++ ':' ::
        (colons (leaving first second) ++ ':' :: second.write) =
        colons (first.trailing.drop i) ++ ':' :: second.write := by
      have hne : (staying first second).drop i ≠ [] := List.ne_nil_of_length_pos (by simp; omega)
      rw [← staying_append_leaving first second, List.drop_append_of_le_length (Nat.le_of_lt hlt),
        colons_append hne (List.ne_nil_of_length_pos hleaving)]
      simp
    have hne : first.trailing.drop i ≠ [] := List.ne_nil_of_length_pos (by simp; omega)
    refine .inr ?_
    rw [hjoin, ofChars?_groups hne (by simp; omega) fun _ hg =>
      lt_of_mem_trailing (List.mem_of_mem_drop hg), if_neg]
    exact fun hroom => absurd hroom.2 (Nat.not_le_of_lt (hmany i hi hlt))

theorem firstSplit_moved (h : first.EndsInGroups) (h' : second.ElidesLater) :
    FirstSplit (first.write ++ ':' :: second.write) (moved first second).1
      (moved first second).2 := by
  have hfit := h.elides.length_le
  have hall := congrArg List.length (staying_append_leaving first second)
  rw [List.length_append] at hall
  obtain ⟨hstaying, hleaving, hroom, -⟩ := length_moved h h'
  have hne := List.ne_nil_of_length_pos hleaving
  have hsplit : first.write ++ ':' :: second.write =
      colons first.leading ++ [':', ':'] ++ colons (staying first second) ++
        ':' :: (colons (leaving first second) ++ ':' :: second.write) := by
    rw [h.elides.write_eq, ← staying_append_leaving first second,
      colons_append (List.ne_nil_of_length_pos hstaying) hne]
    simp
  rw [hsplit]
  refine .mk ?_ ?_ fun before after hcut => ofChars?_cut_staying h h' hcut
  · exact ofChars?_elided (by omega) fun _ hg => lt_of_mem_leading_staying hg
  · rw [ofChars?_groups hne (by omega) fun _ hg => lt_of_mem_leaving hg, if_pos ⟨h', hroom⟩]
    rfl

end

/-- Of two written addresses with a colon between them, the first colon with an address before it
and one after it is the one between them, or else some of the last groups of the first address go
over to the second. -/
theorem firstSplit_write (first second : Address) :
    let read := if first.EndsInGroups ∧ second.ElidesLater then moved first second
      else (first, second)
    FirstSplit (first.write ++ ':' :: second.write) read.1 read.2 := by
  intro read
  by_cases h : first.EndsInGroups ∧ second.ElidesLater
  · rw [show read = moved first second from if_pos h]
    exact firstSplit_moved h.1 h.2
  · rw [show read = (first, second) from if_neg h]
    exact .mk (ofChars?_write first) (ofChars?_write second) fun before after hcut =>
      ofChars?_cut_write h hcut

/-! ## The pair that is read is another one -/

theorem ofElided_inj {before after others : List Nat} (hl : before.length + after.length ≤ 8)
    (hl' : before.length + others.length ≤ 8) (hb : ∀ g ∈ before ++ after, g < 65536)
    (hb' : ∀ g ∈ before ++ others, g < 65536) (h : ofElided before after = ofElided before others) :
    before ++ List.replicate (8 - before.length - after.length) 0 ++ after =
      before ++ List.replicate (8 - before.length - others.length) 0 ++ others := by
  have hbound : ∀ {count : Nat} {groups : List Nat}, (∀ g ∈ before ++ groups, g < 65536) →
      ∀ g ∈ before ++ List.replicate count 0 ++ groups, g < 65536 := by
    intro count groups hall g hg
    simp only [List.mem_append, List.mem_replicate] at hg hall
    rcases hg with (hg | ⟨-, rfl⟩) | hg
    · exact hall g (.inl hg)
    · decide
    · exact hall g (.inr hg)
  have hlen :
      (before ++ List.replicate (8 - before.length - after.length) 0 ++ after).length = 8 := by
    simp
    omega
  have hlen' : (before ++ List.replicate (8 - before.length - others.length) 0 ++
      others).length = 8 := by
    simp
    omega
  -- Eight groups fill an address, so they are its groups.
  have hfill : ∀ {groups : List Nat}, (∀ g ∈ groups, g < 65536) → groups.length = 8 →
      (wrap .v6 (ofParts 16 groups)).parts 16 = groups :=
    fun hgroups hcount => parts_wrap (by decide) hgroups (by rw [hcount]; rfl)
  have hsame : (ofElided before after).parts 16 = (ofElided before others).parts 16 := by rw [h]
  unfold ofElided at hsame
  rwa [hfill (hbound hb) hlen, hfill (hbound hb') hlen'] at hsame

section

variable {before after : List Nat} {count : Nat}

theorem getElem?_zeros {i : Nat} (h : before.length ≤ i) (h' : i < before.length + count) :
    (before ++ List.replicate count 0 ++ after)[i]? = some 0 := by
  rw [List.getElem?_append_left (by simpa using h'), List.getElem?_append_right h,
    List.getElem?_replicate_of_lt (by omega)]

theorem getElem?_after :
    (before ++ List.replicate count 0 ++ after)[before.length + count]? = after.head? := by
  rw [List.getElem?_append_right (by simp), List.length_append, List.length_replicate,
    Nat.sub_self, List.head?_eq_getElem?]

end

theorem head?_trailing (a : Address) : a.trailing.head? ≠ some 0 := by
  unfold trailing
  rw [List.head?_drop]
  exact elided_closed _

theorem moved_ne {first second : Address} (h : first.EndsInGroups) (h' : second.ElidesLater) :
    (moved first second).1 ≠ first := by
  intro heq
  have hfit := h.elides.length_le
  have hall := congrArg List.length (staying_append_leaving first second)
  rw [List.length_append] at hall
  obtain ⟨-, hleaving, -⟩ := length_moved h h'
  have hgroups := ofElided_inj (by omega) (by omega) (fun _ hg => lt_of_mem_leading_staying hg)
    (fun _ hg => lt_of_mem_written hg) (heq.trans h.elides.ofElided_eq.symm)
  -- Where the first group after `::` was, there is now a zero.
  have hplace := congrArg (fun groups =>
    groups[first.leading.length + (8 - first.leading.length - first.trailing.length)]?) hgroups
  rw [getElem?_zeros (Nat.le_add_right _ _) (by omega), getElem?_after] at hplace
  exact head?_trailing first hplace.symm

end TagRules.Net.Address
