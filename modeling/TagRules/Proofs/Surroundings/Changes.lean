import TagRules.Proofs.Surroundings.Places

/-
  What the operations on files change.

  `ChangesAt` says that everything stays in a directory and that the files are the same
  but at some places.  Each operation has one lemma of this form, and one that says what
  is at its place afterwards: what was written is there (`write_eq_ok`), what was removed is
  not (`remove_eq_ok`), and what was moved is where it was moved to (`rename_eq_ok`), as new
  as it was.
  Making directories changes no file at all (`makeParent_changes`), also when it ends in a
  fault half way.
-/

namespace TagRules.FileTree

open Text

variable {t t' : FileTree} {place q : Place} {places : List Place}

/-! ## Putting, erasing and touching -/

@[simp]
theorem entryAt?_touch (t : FileTree) (place q : Place) :
    (t.touch place).entryAt? q = t.entryAt? q := rfl

theorem folders_touch (h : q ≠ place) : (t.touch place).folders q = t.folders q := if_neg h

theorem entries_put (t : FileTree) (place : Place) (e : Entry) :
    (t.put place e).entries = t.entries.insert place e := by
  unfold put
  split <;> rfl

@[simp]
theorem now_put (t : FileTree) (place : Place) (e : Entry) : (t.put place e).now = t.now := by
  unfold put
  split <;> rfl

theorem folders_put (h : q ≠ place.tail) (e : Entry) : (t.put place e).folders q = t.folders q := by
  unfold put
  split
  · rfl
  · exact folders_touch h

theorem folders_erase (h : q ≠ place.tail) : (t.erase place).folders q = t.folders q :=
  folders_touch h

theorem entryAt?_put (h : t.entryAt? place ≠ some .directory) (e : Entry) (q : Place) :
    (t.put place e).entryAt? q = if q = place then some e else t.entryAt? q := by
  by_cases hgiven : q.isGiven = true
  · have hne : q ≠ place := by
      rintro rfl
      exact h (entryAt?_isGiven t hgiven)
    rw [entryAt?_isGiven _ hgiven, entryAt?_isGiven _ hgiven, if_neg hne]
  · simp only [entryAt?, entries_put, hgiven, Std.ExtTreeMap.getElem?_insert,
      Std.compare_eq_iff_eq, eq_comm (a := place)]
    rfl

theorem entryAt?_erase (h : t.entryAt? place ≠ some .directory) (q : Place) :
    (t.erase place).entryAt? q = if q = place then none else t.entryAt? q := by
  by_cases hgiven : q.isGiven = true
  · have hne : q ≠ place := by
      rintro rfl
      exact h (entryAt?_isGiven t hgiven)
    rw [entryAt?_isGiven _ hgiven, entryAt?_isGiven _ hgiven, if_neg hne]
  · simp only [entryAt?, erase, touch, hgiven, Std.ExtTreeMap.getElem?_erase,
      Std.compare_eq_iff_eq, eq_comm (a := place)]
    rfl

/-- Where a file or a directory can be put: in a directory, and not in place of one. -/
structure IsOpen (t : FileTree) (place : Place) : Prop where
  entryAt?_ne : t.entryAt? place ≠ some .directory
  parent : ∃ name parent, place = name :: parent ∧ t.entryAt? parent = some .directory

/-! ## Changes -/

/-- Everything stays in a directory, and files change at some places only. -/
structure ChangesAt (places : List Place) (t t' : FileTree) : Prop where
  rooted : t.Rooted → t'.Rooted
  fileAt?_eq : ∀ q ∉ places, t'.fileAt? q = t.fileAt? q

namespace ChangesAt

theorem refl (places : List Place) (t : FileTree) : ChangesAt places t t :=
  ⟨id, fun _ _ => rfl⟩

theorem trans {t'' : FileTree} (h : ChangesAt places t t') (h' : ChangesAt places t' t'') :
    ChangesAt places t t'' :=
  ⟨h'.rooted ∘ h.rooted, fun q hq => (h'.fileAt?_eq q hq).trans (h.fileAt?_eq q hq)⟩

theorem mono {more : List Place} (h : ChangesAt places t t') (hsub : places ⊆ more) :
    ChangesAt more t t' :=
  ⟨h.rooted, fun q hq => h.fileAt?_eq q fun hmem => hq (hsub hmem)⟩

theorem content?_eq (h : ChangesAt places t t') (ht : t.Rooted) {path : String}
    (hplain : (Path.ofString path).IsPlain) (hplace : (Path.ofString path).place ∉ places) :
    t'.content? path = t.content? path :=
  content?_congr ht (h.rooted ht) hplain (h.fileAt?_eq _ hplace)

end ChangesAt

namespace IsOpen

theorem put_directory (h : t.IsOpen place) (e : Entry) (hq : t.entryAt? q = some .directory) :
    (t.put place e).entryAt? q = some .directory := by
  have hne : q ≠ place := by
    rintro rfl
    exact h.entryAt?_ne hq
  rw [entryAt?_put h.entryAt?_ne, if_neg hne, hq]

theorem put_rooted (h : t.IsOpen place) (e : Entry) (ht : t.Rooted) : (t.put place e).Rooted := by
  obtain ⟨name, parent, rfl, hparent⟩ := h.parent
  intro n p hthere
  rw [entryAt?_put h.entryAt?_ne] at hthere
  refine h.put_directory e ?_
  -- The new entry is in the directory it was put into, and the others are where they were.
  by_cases hplace : n :: p = name :: parent
  · rw [(List.cons.inj hplace).2]
    exact hparent
  · rw [if_neg hplace] at hthere
    exact ht n p hthere

theorem put_changes (h : t.IsOpen place) (e : Entry) : ChangesAt [place] t (t.put place e) where
  rooted := h.put_rooted e
  fileAt?_eq q hq := by
    rw [List.mem_singleton] at hq
    exact fileAt?_congr (by rw [entryAt?_put h.entryAt?_ne, if_neg hq])

theorem put_directory_changes (h : t.IsOpen place) (hnone : t.entryAt? place = none) :
    ChangesAt [] t (t.put place .directory) where
  rooted := h.put_rooted .directory
  fileAt?_eq q _ := by
    by_cases hplace : q = place
    · simp [fileAt?, entryAt?_put h.entryAt?_ne, hplace, hnone]
    · exact fileAt?_congr (by rw [entryAt?_put h.entryAt?_ne, if_neg hplace])

theorem put_fileAt? (h : t.IsOpen place) (f : File) :
    (t.put place (.file f)).fileAt? place = some f := by
  rw [fileAt?_eq_some, entryAt?_put h.entryAt?_ne, if_pos rfl]

end IsOpen

section Erase

variable (h : t.entryAt? place ≠ some .directory)

include h

theorem erase_directory (hq : t.entryAt? q = some .directory) :
    (t.erase place).entryAt? q = some .directory := by
  have hne : q ≠ place := by
    rintro rfl
    exact h hq
  rw [entryAt?_erase h, if_neg hne, hq]

theorem erase_changes : ChangesAt [place] t (t.erase place) where
  rooted ht n p hthere := by
    rw [entryAt?_erase h] at hthere
    refine erase_directory h ?_
    by_cases hplace : n :: p = place
    · simp [hplace] at hthere
    · rw [if_neg hplace] at hthere
      exact ht n p hthere
  fileAt?_eq q hq := by
    rw [List.mem_singleton] at hq
    exact fileAt?_congr (by rw [entryAt?_erase h, if_neg hq])

theorem IsOpen.erase (hq : t.IsOpen q) : (t.erase place).IsOpen q where
  entryAt?_ne := by
    rw [entryAt?_erase h]
    split
    · simp
    · exact hq.entryAt?_ne
  parent := by
    obtain ⟨name, parent, hplace, hparent⟩ := hq.parent
    exact ⟨name, parent, hplace, erase_directory h hparent⟩

end Erase

/-! ## Places for entries -/

theorem slot_of_steps {p : Path} {outer : List String} {name : String} (hfault : p.fault? = none)
    (hsteps : p.steps = outer ++ [name]) :
    t.slot p = (t.walk (start p) (outer ++ ["."]) >>= fun parent =>
      if name == "." || name == ".." then .ok .reserved
      else if Path.stepLimit < name.utf8ByteSize then .error .nameTooLong
      else .ok (.free (name :: parent) p.endsWithSlash)) := by
  simp [slot, hfault, hsteps]

/-- A path puts an entry at its place, in a directory that its steps before a last name lead to. -/
theorem slot_eq_free {p : Path} {slash : Bool} (h : t.slot p = .ok (.free place slash)) :
    p.fault? = none ∧ slash = p.endsWithSlash ∧ place = p.place ∧
      t.walk (start p) p.steps = .ok place ∧
      (∃ outer name, p.steps = outer ++ [name] ∧ name ≠ "." ∧ name ≠ "..") ∧
      ∃ name parent, place = name :: parent ∧ t.entryAt? parent = some .directory := by
  cases hfault : p.fault? with
  | some fault => simp [slot, hfault] at h
  | none =>
    cases hlast : p.steps.getLast? with
    | none => simp [slot, hfault, hlast] at h
    | some name =>
      obtain ⟨outer, hsteps⟩ := List.getLast?_eq_some_iff.mp hlast
      rw [slot_of_steps hfault hsteps] at h
      obtain ⟨parent, hparent, hname⟩ := bind_eq_ok.mp h
      obtain ⟨between, houter, hdot⟩ := (walk_append t _ _ _ parent).mp hparent
      obtain ⟨hdir, rfl⟩ := (walk_dot t between parent).mp hdot
      split at hname
      · cases hname
      · next hordinary =>
        split at hname
        · cases hname
        · next hsize =>
          simp only [Bool.or_eq_true, beq_iff_eq, not_or] at hordinary
          obtain ⟨rfl, rfl⟩ := Slot.free.inj (Except.ok.inj hname)
          -- The last step is a name, so it leads one place further than those before it.
          have hwalk : t.walk (start p) p.steps = .ok (name :: parent) := by
            rw [hsteps, walk_append]
            refine ⟨parent, houter, (walk_cons _ _ _ _ _).mpr ⟨hdir, Nat.le_of_not_lt hsize, ?_⟩⟩
            rw [Place.step_name hordinary.1 hordinary.2]
            rfl
          exact ⟨rfl, rfl, walk_eq hwalk, hwalk, ⟨outer, name, hsteps, hordinary⟩, name, parent,
            rfl, hdir⟩

theorem slot_mono (hdirs : ∀ q, t.entryAt? q = some .directory → t'.entryAt? q = some .directory)
    {p : Path} {slot : Slot} (h : t.slot p = .ok slot) : t'.slot p = .ok slot := by
  unfold FileTree.slot at h ⊢
  cases hfault : p.fault? with
  | some fault => simp [hfault] at h
  | none =>
    cases hlast : p.steps.getLast? with
    | none => simpa [hfault, hlast] using h
    | some name =>
      simp only [hfault, hlast] at h ⊢
      obtain ⟨parent, hwalk, hname⟩ := bind_eq_ok.mp h
      exact bind_eq_ok.mpr ⟨parent, walk_mono hdirs hwalk, hname⟩

/-! ## Writing, removing, moving -/

/-- A path puts an entry at its place, and there is a file. -/
structure HasFile (t : FileTree) (path : String) (f : File) : Prop where
  slot_eq : t.slot (Path.ofString path) = .ok (.free (Path.ofString path).place false)
  fileAt?_eq : t.fileAt? (Path.ofString path).place = some f

theorem IsOpen.hasFile_put {path : String} (h : t.IsOpen (Path.ofString path).place)
    (hslot : t.slot (Path.ofString path) = .ok (.free (Path.ofString path).place false))
    (f : File) : (t.put (Path.ofString path).place (.file f)).HasFile path f :=
  ⟨slot_mono (fun _ => h.put_directory (.file f)) hslot, h.put_fileAt? f⟩

theorem HasFile.look_eq {path : String} {f : File} (h : t.HasFile path f) :
    t.look path = .ok (.file f) := by
  obtain ⟨hfault, hslash, -, hwalk, -, -⟩ := slot_eq_free h.slot_eq
  exact find_eq_file.mpr ⟨hfault, hslash.symm, hwalk, h.fileAt?_eq⟩

theorem HasFile.file_eq {path : String} {f : File} (h : t.HasFile path f) :
    t.file path = .ok f := file_eq_ok.mpr h.look_eq

theorem HasFile.entryAt?_ne {path : String} {f : File} (h : t.HasFile path f) :
    t.entryAt? (Path.ofString path).place ≠ some .directory := by
  rw [fileAt?_eq_some.mp h.fileAt?_eq]
  simp

theorem HasFile.content?_eq {path : String} {f : File} (h : t.HasFile path f) :
    t.content? path = some f.content :=
  content?_eq_some.mpr ⟨f, rfl, h.look_eq⟩

theorem filePlace_eq_ok {path : String} (h : t.filePlace path = .ok place) :
    place = (Path.ofString path).place ∧ t.IsOpen place ∧
      t.slot (Path.ofString path) = .ok (.free place false) := by
  obtain ⟨slot, hslot, hfree⟩ := bind_eq_ok.mp h
  cases slot with
  | reserved => cases hfree
  | free q slash =>
    cases slash with
    | true => cases hfree
    | false =>
      obtain ⟨-, -, hplace, -, -, hparent⟩ := slot_eq_free hslot
      cases hentry : t.entryAt? q with
      | none =>
        simp only [hentry] at hfree
        obtain rfl := Except.ok.inj hfree
        exact ⟨hplace, ⟨by simp [hentry], hparent⟩, hslot⟩
      | some e =>
        cases e with
        | directory => simp [hentry] at hfree
        | file f =>
          simp only [hentry] at hfree
          obtain rfl := Except.ok.inj hfree
          exact ⟨hplace, ⟨by simp [hentry], hparent⟩, hslot⟩

theorem writeAt_eq {path : String} {content : Bytes} {written : Int}
    (h : t.writeAt path content written = .ok t') :
    t.IsOpen (Path.ofString path).place ∧
      t.slot (Path.ofString path) = .ok (.free (Path.ofString path).place false) ∧
      t' = t.put (Path.ofString path).place
        (.file ⟨content, written, t.keepsReadable (Path.ofString path).place⟩) := by
  unfold writeAt at h
  cases hplace : t.filePlace path with
  | error fault =>
    rw [hplace] at h
    cases h
  | ok place =>
    obtain ⟨rfl, hopen, hslot⟩ := filePlace_eq_ok hplace
    rw [hplace] at h
    exact ⟨hopen, hslot, (Except.ok.inj h).symm⟩

theorem writeAt_eq_ok {path : String} {content : Bytes} {written : Int}
    (h : t.writeAt path content written = .ok t') :
    ChangesAt [(Path.ofString path).place] t t' ∧
      t'.HasFile path ⟨content, written, t.keepsReadable (Path.ofString path).place⟩ ∧
      t'.now = t.now := by
  obtain ⟨hopen, hslot, rfl⟩ := writeAt_eq h
  exact ⟨hopen.put_changes _, hopen.hasFile_put hslot _, now_put ..⟩

theorem write_eq_ok {path : String} {content : Bytes} (h : t.write path content = .ok t') :
    ChangesAt [(Path.ofString path).place] t t' ∧
      t'.HasFile path ⟨content, t'.now, t.keepsReadable (Path.ofString path).place⟩ := by
  obtain ⟨hchanges, hfile, hnow⟩ := writeAt_eq_ok h
  rw [hnow]
  exact ⟨hchanges, hfile⟩

theorem write_isOpen_iff {path : String} {content : Bytes} (h : t.write path content = .ok t')
    (hne : q ≠ (Path.ofString path).place) : t'.IsOpen q ↔ t.IsOpen q := by
  obtain ⟨hopen, -, rfl⟩ := writeAt_eq h
  have hentry := entryAt?_put hopen.entryAt?_ne
    (.file ⟨content, t.now, t.keepsReadable (Path.ofString path).place⟩)
  constructor
  · rintro ⟨hnot, name, parent, rfl, hparent⟩
    rw [hentry, if_neg hne] at hnot
    refine ⟨hnot, name, parent, rfl, ?_⟩
    rw [hentry] at hparent
    split at hparent
    · cases hparent
    · exact hparent
  · rintro ⟨hnot, name, parent, rfl, hparent⟩
    refine ⟨?_, name, parent, rfl, hopen.put_directory _ hparent⟩
    rw [hentry, if_neg hne]
    exact hnot

theorem isPresent_eq_false {path : String} (h : t.entryAt? (Path.ofString path).place = none) :
    t.isPresent path = false := by
  unfold isPresent look
  cases hfind : t.find (Path.ofString path) with
  | error fault => rfl
  | ok e =>
    obtain ⟨-, -, hentry⟩ := find_eq_ok.mp hfind
    rw [h] at hentry
    cases hentry

theorem HasFile.remove_eq {path : String} {f : File} (h : t.HasFile path f) :
    t.remove path = .ok (t.erase (Path.ofString path).place) := by
  have hentry := fileAt?_eq_some.mp h.fileAt?_eq
  exact bind_eq_ok.mpr ⟨_, h.slot_eq, by simp [hentry]⟩

theorem HasFile.remove_eq_ok {path : String} {f : File} (h : t.HasFile path f) :
    ∃ t', t.remove path = .ok t' ∧ ChangesAt [(Path.ofString path).place] t t' ∧
      t'.isPresent path = false := by
  refine ⟨t.erase (Path.ofString path).place, h.remove_eq, erase_changes h.entryAt?_ne, ?_⟩
  exact isPresent_eq_false (by rw [entryAt?_erase h.entryAt?_ne, if_pos rfl])

/-- A file that is moved is taken away first, and so is what it takes the place of, which closes no
way to that place. -/
theorem HasFile.rename_eq {source target : String} {f : File} (hsource : t.HasFile source f)
    (h : t.rename source target = .ok t') :
    t.IsOpen (Path.ofString target).place ∧
      t.slot (Path.ofString target) = .ok (.free (Path.ofString target).place false) ∧
      t' = ((t.erase (Path.ofString source).place).erase (Path.ofString target).place).put
        (Path.ofString target).place (.file f) := by
  have hentry := fileAt?_eq_some.mp hsource.fileAt?_eq
  obtain ⟨slot, hfrom, hrest⟩ := bind_eq_ok.mp h
  obtain rfl := Except.ok.inj (hsource.slot_eq.symm.trans hfrom)
  obtain ⟨slot, hslot, hmove⟩ := bind_eq_ok.mp hrest
  cases slot with
  | reserved => cases hmove
  | free place slash =>
    obtain ⟨-, -, rfl, -, -, hparent⟩ := slot_eq_free hslot
    simp only [hentry] at hmove
    cases slash with
    | true => cases hmove
    | false =>
      have hne : t.entryAt? (Path.ofString target).place ≠ some .directory := by
        intro hdir
        simp [hdir] at hmove
      refine ⟨⟨hne, hparent⟩, hslot, ?_⟩
      cases hthere : t.entryAt? (Path.ofString target).place with
      | none => simpa [hthere] using hmove.symm
      | some e =>
        cases e with
        | directory => exact absurd hthere hne
        | file g => simpa [hthere] using hmove.symm

theorem rename_eq_ok {source target : String} {f : File} (hsource : t.HasFile source f)
    (h : t.rename source target = .ok t') :
    ChangesAt [(Path.ofString source).place, (Path.ofString target).place] t t' ∧
      t'.HasFile target f ∧ t'.now = t.now := by
  obtain ⟨hopen, hslot, rfl⟩ := hsource.rename_eq h
  have hleft := IsOpen.erase hsource.entryAt?_ne hopen
  have hfree := IsOpen.erase hleft.entryAt?_ne hleft
  refine ⟨?_, ?_, now_put ..⟩
  · exact (((erase_changes hsource.entryAt?_ne).mono (by simp)).trans
      ((erase_changes hleft.entryAt?_ne).mono (by simp))).trans
        ((hfree.put_changes _).mono (by simp))
  · refine hfree.hasFile_put (slot_mono (fun q hq => ?_) hslot) f
    exact erase_directory hleft.entryAt?_ne (erase_directory hsource.entryAt?_ne hq)

/-! ## Making directories -/

theorem makeDirectory_eq {p : Path} (h : t.makeDirectory p = .ok t') :
    t.slot p = .ok (.free p.place p.endsWithSlash) ∧ t.entryAt? p.place = none ∧
      t.IsOpen p.place ∧ t' = (t.put p.place .directory).touch p.place := by
  obtain ⟨slot, hslot, hmade⟩ := bind_eq_ok.mp h
  cases slot with
  | reserved => cases hmade
  | free place slash =>
    obtain ⟨-, rfl, rfl, -, -, hparent⟩ := slot_eq_free hslot
    cases hentry : t.entryAt? p.place with
    | some e => simp [hentry] at hmade
    | none =>
      simp only [hentry] at hmade
      exact ⟨hslot, rfl, ⟨by simp [hentry], hparent⟩, (Except.ok.inj hmade).symm⟩

theorem makeDirectory_eq_ok {p : Path} (h : t.makeDirectory p = .ok t') : ChangesAt [] t t' := by
  obtain ⟨-, hentry, hopen, rfl⟩ := makeDirectory_eq h
  have hput := hopen.put_directory_changes hentry
  exact ⟨hput.rooted, hput.fileAt?_eq⟩

/-- What is kept whenever one of the directories is made is kept when all of them are.  By induction
on the steps; the directory itself is tried before and after those it is in. -/
theorem makeSteps_keeps {R : FileTree → FileTree → Prop} (hrefl : ∀ t, R t t)
    (htrans : ∀ {t₁ t₂ t₃}, R t₁ t₂ → R t₂ t₃ → R t₁ t₃) (isAbsolute : Bool)
    {names : List String}
    (hmakes : ∀ outer, outer <:+ names → ∀ {t t' : FileTree},
      t.makeDirectory (Path.ofSteps isAbsolute outer.reverse) = .ok t' → R t t')
    (t : FileTree) : R t (makeSteps isAbsolute t names).2 := by
  induction names with
  | nil => exact hrefl t
  | cons name outer ih =>
    have ih := ih fun inner hinner => hmakes inner (hinner.trans (List.suffix_cons ..))
    have hmakes := @hmakes (name :: outer) List.suffix_rfl
    dsimp only [makeSteps]
    split
    · next made hmade => exact hmakes hmade
    · split
      · next fault outside hsteps =>
        rw [hsteps] at ih
        exact ih
      · next outside hsteps =>
        rw [hsteps] at ih
        split
        · next made hmade => exact htrans ih (hmakes hmade)
        · exact ih
    · exact hrefl t

theorem makeSteps_changes (isAbsolute : Bool) (t : FileTree) (steps : List String) :
    ChangesAt [] t (makeSteps isAbsolute t steps).2 :=
  makeSteps_keeps (.refl []) .trans isAbsolute (fun _ _ _ _ hmade => makeDirectory_eq_ok hmade) t

theorem makeParent_changes (t : FileTree) (path : String) :
    ChangesAt [] t (t.makeParent path).2 := by
  unfold makeParent
  split
  · exact makeSteps_changes _ t _
  · exact .refl [] t

/-! ## The empty tree -/

theorem empty_rooted (now : Int) : (empty now).Rooted := by
  intro name place hthere
  have hgiven : Place.isGiven (name :: place) = true := by
    cases hnot : Place.isGiven (name :: place) with
    | true => rfl
    | false => exact absurd (by simp [entryAt?, hnot, empty]) hthere
  refine entryAt?_isGiven _ ?_
  unfold Place.isGiven at hgiven ⊢
  simp only [List.all_cons, Bool.or_eq_true, Bool.and_eq_true, beq_iff_eq,
    List.cons.injEq] at hgiven
  rcases hgiven with ⟨-, hup⟩ | ⟨-, rfl⟩
  · rw [hup, Bool.true_or]
  · rfl

end TagRules.FileTree
