import TagRules.Proofs.Declaration.Manifests
import TagRules.Proofs.Text.Lines

/-
  Declarations written as lines of a manifest.

  A line that can be read leaves its mark on what it declares: the tags are words without
  commas, there is at least one, the source has no blanks at its ends, and no part of a
  comment is left (`isWritable_of_ofLine`).  A declaration of this form (`IsWritable`) is read
  from its written form as itself (`ofLine_write`).  So the declarations that lines can
  make are those that writing and reading leaves as they are.
-/

namespace TagRules.Declaration

open Text

/-- Whether a declaration has the form that is read from a line. -/
structure IsWritable (d : Declaration) : Prop where
  tags_ne : d.tags ≠ []
  tag_ne : ∀ tag ∈ d.tags, tag ≠ ""
  tag_plain : ∀ tag ∈ d.tags, ∀ c ∈ tag.toList, isBlank c = false ∧ c ≠ ',' ∧ c ≠ '#'
  source_ne : d.source ≠ ""
  source_trim : trim d.source.toList = d.source.toList
  source_sharp : '#' ∉ d.source.toList

variable {d : Declaration} {line cs : List Char}

/-! ## Fields -/

theorem cutBlank_append {before : List Char} (h : ∀ c ∈ before, isBlank c = false) {c : Char}
    (hc : isBlank c = true) (after : List Char) :
    cutBlank (before ++ c :: after) = (before, after) := by
  have hcut : cut? isBlank (before ++ c :: after) = some (before, after) :=
    cut?_eq_some_iff.mpr ⟨c, hc, h, rfl⟩
  rw [cutBlank, hcut]
  rfl

theorem cutBlank_cases (cs : List Char) :
    (∀ c ∈ (cutBlank cs).1, isBlank c = false) ∧ (cutBlank cs).1 ⊆ cs ∧
      (cutBlank cs).2 ⊆ cs := by
  unfold cutBlank
  cases hcut : cut? isBlank cs with
  | none => exact ⟨cut?_eq_none_iff.mp hcut, List.Subset.refl cs, List.nil_subset cs⟩
  | some parts =>
    obtain ⟨before, after⟩ := parts
    obtain ⟨c, -, hbefore, rfl⟩ := cut?_eq_some_iff.mp hcut
    exact ⟨hbefore, List.subset_append_left _ _, fun d hd =>
      List.mem_append_right before (List.mem_cons_of_mem c hd)⟩

theorem of_mem_readTags {tag : String} (h : tag ∈ readTags cs) :
    tag ≠ "" ∧ ∀ c ∈ tag.toList, c ≠ ',' ∧ c ∈ cs := by
  unfold readTags at h
  obtain ⟨text, htext, rfl⟩ := List.mem_map.mp h
  obtain ⟨hpart, hne⟩ := List.mem_filter.mp htext
  obtain ⟨part, hsplit, rfl⟩ := List.mem_map.mp hpart
  constructor
  · simpa using hne
  · intro c hc
    rw [String.toList_ofList] at hc
    exact of_mem_splitAll hsplit c (mem_of_mem_trim hc)

theorem readTags_intercalate {tags : List String} (hne : tags ≠ []) (htag : ∀ tag ∈ tags, tag ≠ "")
    (hplain : ∀ tag ∈ tags, ∀ c ∈ tag.toList, isBlank c = false ∧ c ≠ ',') :
    readTags (List.intercalate [','] (tags.map String.toList)) = tags := by
  have hcomma : ∀ part ∈ tags.map String.toList, ',' ∉ part :=
    List.forall_mem_map.mpr fun tag htag hmem => (hplain tag htag ',' hmem).2 rfl
  have htrim : (tags.map String.toList).map trim = tags.map String.toList := by
    refine List.map_congr_left (g := id) ?_ |>.trans (List.map_id _)
    exact List.forall_mem_map.mpr fun tag htag =>
      trim_of_no_blank fun c hc => (hplain tag htag c hc).1
  have hfilter : (tags.map String.toList).filter (fun tag => !tag.isEmpty) =
      tags.map String.toList := by
    refine List.filter_eq_self.mpr (List.forall_mem_map.mpr fun tag hmem => ?_)
    simpa using htag tag hmem
  unfold readTags
  rw [splitAll_intercalate (by simpa using hne) hcomma, htrim, hfilter, List.map_map]
  exact (List.map_congr_left (g := id) fun _ _ => String.ofList_toList).trans (List.map_id _)

theorem ofFields_eq_ok_iff :
    ofFields line = .ok d ↔
      let (kind, rest) := cutBlank line
      let (tags, source) := cutBlank (trimStart rest)
      trim source ≠ [] ∧ TableKind.ofChars? kind = some d.kind ∧ readTags tags = d.tags ∧
        d.tags ≠ [] ∧ d.source = String.ofList (trim source) := by
  obtain ⟨kind, tags, source⟩ := d
  unfold ofFields
  dsimp only
  split
  · next hempty => simp [List.isEmpty_iff.mp hempty]
  · next hsource =>
    have hne : trim (cutBlank (trimStart (cutBlank line).2)).2 ≠ [] := by simpa using hsource
    cases hkind : TableKind.ofChars? (cutBlank line).1 with
    | none => simp
    | some k =>
      dsimp only
      split
      · next hnone =>
        rw [hnone]
        simp +contextual
      · next htags =>
        simp only [Except.ok.injEq, mk.injEq, Option.some.injEq]
        constructor
        · rintro ⟨rfl, rfl, rfl⟩
          exact ⟨hne, rfl, rfl, htags, rfl⟩
        · rintro ⟨-, rfl, rfl, -, rfl⟩
          exact ⟨rfl, rfl, rfl⟩

theorem ofLine_eq_ok_some_iff :
    ofLine line = .ok (some d) ↔ Line.strip line ≠ [] ∧ ofFields (Line.strip line) = .ok d := by
  unfold ofLine
  split
  · next hnil => simp [hnil]
  · next hne =>
    have hsaid : Line.strip line ≠ [] := hne
    cases ofFields (Line.strip line) <;> simp [hsaid, Except.map]

/-! ## What lines declare -/

theorem sharp_notMem_strip (line : List Char) : '#' ∉ Line.strip line := by
  intro h
  simpa using List.mem_takeWhile_imp (mem_of_mem_trim h)

theorem isWritable_of_ofLine (h : ofLine line = .ok (some d)) : d.IsWritable := by
  obtain ⟨-, hfields⟩ := ofLine_eq_ok_some_iff.mp h
  have hsharp := sharp_notMem_strip line
  generalize Line.strip line = said at hfields hsharp
  obtain ⟨hsource, -, htags, hne, hd⟩ := ofFields_eq_ok_iff.mp hfields
  obtain ⟨-, -, hrest⟩ := cutBlank_cases said
  obtain ⟨hplain, hfirst, hlast⟩ := cutBlank_cases (trimStart (cutBlank said).2)
  -- Everything that is read is in the line, in front of any number sign.
  have hsaid : ∀ c ∈ trimStart (cutBlank said).2, c ∈ said := fun c hc =>
    hrest ((List.dropWhile_sublist isBlank).subset hc)
  refine ⟨hne, ?_, ?_, ?_, ?_, ?_⟩
  · exact fun tag htag => (of_mem_readTags (htags ▸ htag)).1
  · intro tag htag c hc
    obtain ⟨hcomma, hmem⟩ := (of_mem_readTags (htags ▸ htag)).2 c hc
    exact ⟨hplain c hmem, hcomma, fun heq => hsharp (heq ▸ hsaid c (hfirst hmem))⟩
  · rw [hd]
    simpa using hsource
  · rw [hd, String.toList_ofList, trim_trim]
  · rw [hd, String.toList_ofList]
    exact fun hmem => hsharp (hsaid _ (hlast (mem_of_mem_trim hmem)))

/-! ## The written form -/

theorem toList_write (d : Declaration) :
    d.write.toList = d.kind.name.toList ++
      ' ' :: (List.intercalate [','] (d.tags.map String.toList) ++ ' ' :: d.source.toList) := by
  simp [write, String.toList_append, String.toList_intercalate]

theorem ofChars?_name (kind : TableKind) : TableKind.ofChars? kind.name.toList = some kind := by
  cases kind <;> decide +kernel

theorem name_plain (kind : TableKind) :
    kind.name.toList ≠ [] ∧ ∀ c ∈ kind.name.toList, isBlank c = false ∧ c ≠ '#' := by
  have hall : kind.name.toList.all (fun c => !isBlank c && c != '#') = true := by
    cases kind <;> decide
  refine ⟨by cases kind <;> decide, fun c hc => ?_⟩
  simpa using List.all_eq_true.mp hall c hc

namespace IsWritable

theorem source_ne_nil (h : d.IsWritable) : d.source.toList ≠ [] := by
  simpa using h.source_ne

theorem tags_plain (h : d.IsWritable) :
    ∀ c ∈ List.intercalate [','] (d.tags.map String.toList), isBlank c = false ∧ c ≠ '#' := by
  intro c hc
  rcases mem_intercalate hc with hc | ⟨word, hword, hc⟩
  · rw [List.mem_singleton.mp hc]
    decide
  · obtain ⟨tag, htag, rfl⟩ := List.mem_map.mp hword
    obtain ⟨hblank, -, hsharp⟩ := h.tag_plain tag htag c hc
    exact ⟨hblank, hsharp⟩

theorem sharp_notMem_write (h : d.IsWritable) : '#' ∉ d.write.toList := by
  rw [toList_write]
  simp only [List.mem_append, List.mem_cons, not_or]
  exact ⟨fun hc => ((name_plain d.kind).2 _ hc).2 rfl, by decide,
    fun hc => (h.tags_plain _ hc).2 rfl, by decide, h.source_sharp⟩

theorem strip_write (h : d.IsWritable) : Line.strip d.write.toList = d.write.toList := by
  rw [Line.strip_eq_trim h.sharp_notMem_write, toList_write]
  obtain ⟨hne, hplain⟩ := name_plain d.kind
  obtain ⟨c, rest, hname⟩ := List.exists_cons_of_ne_nil hne
  have hc : isBlank c = false := (hplain c (by simp [hname])).1
  have hwhole := trim_cons_append hc h.source_ne_nil h.source_trim
    (rest ++ ' ' :: (List.intercalate [','] (d.tags.map String.toList) ++ [' ']))
  simpa [hname] using hwhole

theorem readTags_tags (h : d.IsWritable) :
    readTags (List.intercalate [','] (d.tags.map String.toList)) = d.tags :=
  readTags_intercalate h.tags_ne h.tag_ne fun tag htag c hc =>
    (h.tag_plain tag htag c hc).imp_right And.left

/-- The tags do not begin with a blank, so the text that begins with them is not shortened. -/
theorem trimStart_tags (h : d.IsWritable) (rest : List Char) :
    trimStart (List.intercalate [','] (d.tags.map String.toList) ++ rest) =
      List.intercalate [','] (d.tags.map String.toList) ++ rest := by
  have hne : List.intercalate [','] (d.tags.map String.toList) ≠ [] := by
    intro hnil
    have hread := h.readTags_tags
    rw [hnil] at hread
    exact h.tags_ne hread.symm
  obtain ⟨c, more, hcons⟩ := List.exists_cons_of_ne_nil hne
  have hc : isBlank c = false := (h.tags_plain c (by simp [hcons])).1
  rw [hcons, List.cons_append, trimStart_cons hc]

theorem ofFields_write (h : d.IsWritable) : ofFields d.write.toList = .ok d := by
  have hblank : isBlank ' ' = true := by decide
  have hkind := cutBlank_append (fun c hc => ((name_plain d.kind).2 c hc).1) hblank
    (List.intercalate [','] (d.tags.map String.toList) ++ ' ' :: d.source.toList)
  have htags := cutBlank_append (fun c hc => (h.tags_plain c hc).1) hblank d.source.toList
  rw [ofFields_eq_ok_iff, toList_write, hkind]
  dsimp only
  rw [h.trimStart_tags, htags]
  dsimp only
  rw [h.source_trim, String.ofList_toList]
  exact ⟨h.source_ne_nil, ofChars?_name d.kind, h.readTags_tags, h.tags_ne, rfl⟩

theorem ofLine_write (h : d.IsWritable) : ofLine d.write.toList = .ok (some d) := by
  refine ofLine_eq_ok_some_iff.mpr ?_
  rw [h.strip_write]
  refine ⟨?_, h.ofFields_write⟩
  rw [toList_write]
  simp

end IsWritable

/-- There are lines that declare something exactly if it has the form that is read from a line, and
then its written form is such a line, whatever the numbers of the lines are. -/
theorem ofNumberedLine_write (d : Declaration) :
    ((∃ number line, ofNumberedLine number line = .ok (some d)) ↔ d.IsWritable) ∧
      (d.IsWritable ↔ ∀ number, ofNumberedLine number d.write.toList = .ok (some d)) := by
  have hread : (∃ number line, ofNumberedLine number line = .ok (some d)) → d.IsWritable := by
    rintro ⟨number, line, hline⟩
    exact isWritable_of_ofLine (ofNumberedLine_eq_ok_iff.mp hline)
  have hwrite : d.IsWritable → ∀ number, ofNumberedLine number d.write.toList = .ok (some d) :=
    fun h number => ofNumberedLine_of_ok h.ofLine_write number
  exact ⟨⟨hread, fun h => ⟨1, d.write.toList, hwrite h 1⟩⟩,
    ⟨hwrite, fun h => hread ⟨1, d.write.toList, h 1⟩⟩⟩

end TagRules.Declaration
