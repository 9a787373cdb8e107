import TagRules.Proofs.Surroundings.Directories

/-
  What the operations on files leave alone.

  An operation writes at some places, and it may make directories on the way to one.
  `ChangesAround` says that directories stay and that whatever is neither at those places
  nor on that way is as it was, files and directories alike.  What a look at a directory
  tells is as it was as well, unless one of the places is in it.  So operations that are
  not in each other's way do not notice each other.
-/

namespace TagRules.FileTree

open Text

variable {t t' : FileTree} {place q way : Place} {places : List Place} {p : Path}

/-- The clock and all directories stay, and what else changes is at some places or, by directories
that are made, on the way to a place. -/
structure ChangesAround (way : Place) (places : List Place) (t t' : FileTree) : Prop where
  now_eq : t'.now = t.now
  directory : ∀ q, t.entryAt? q = some .directory → t'.entryAt? q = some .directory
  entryAt?_eq : ∀ q ∉ places, ¬q <:+ way → t'.entryAt? q = t.entryAt? q
  folders_eq : ∀ q, (∀ p ∈ places, ¬q <:+ p) → ¬q <:+ way → t'.folders q = t.folders q

namespace ChangesAround

theorem refl (way : Place) (places : List Place) (t : FileTree) : ChangesAround way places t t :=
  ⟨rfl, fun _ h => h, fun _ _ _ => rfl, fun _ _ _ => rfl⟩

theorem trans {t'' : FileTree} (h : ChangesAround way places t t')
    (h' : ChangesAround way places t' t'') : ChangesAround way places t t'' :=
  ⟨h'.now_eq.trans h.now_eq, fun q hq => h'.directory q (h.directory q hq),
    fun q hq hway => (h'.entryAt?_eq q hq hway).trans (h.entryAt?_eq q hq hway),
    fun q hq hway => (h'.folders_eq q hq hway).trans (h.folders_eq q hq hway)⟩

theorem mono {further : Place} {more : List Place} (h : ChangesAround way places t t')
    (hway : way <:+ further) (hsub : places ⊆ more) : ChangesAround further more t t' where
  now_eq := h.now_eq
  directory := h.directory
  entryAt?_eq q hq hnot :=
    h.entryAt?_eq q (fun hmem => hq (hsub hmem)) fun hsuffix => hnot (hsuffix.trans hway)
  folders_eq q hq hnot :=
    h.folders_eq q (fun p hp => hq p (hsub hp)) fun hsuffix => hnot (hsuffix.trans hway)

end ChangesAround

theorem ne_tail_of_not_suffix (h : ∀ p ∈ [place], ¬q <:+ p) : q ≠ place.tail := by
  rintro rfl
  exact h place (List.mem_singleton_self _) (List.tail_suffix _)

theorem IsOpen.put_around (h : t.IsOpen place) (e : Entry) (way : Place) :
    ChangesAround way [place] t (t.put place e) where
  now_eq := now_put ..
  directory _ hq := h.put_directory e hq
  entryAt?_eq q hq _ := by
    rw [entryAt?_put h.entryAt?_ne, if_neg (mt List.mem_singleton.mpr hq)]
  folders_eq _ hq _ := folders_put (ne_tail_of_not_suffix hq) e

theorem erase_around (h : t.entryAt? place ≠ some .directory) (way : Place) :
    ChangesAround way [place] t (t.erase place) where
  now_eq := rfl
  directory _ hq := erase_directory h hq
  entryAt?_eq q hq _ := by
    rw [entryAt?_erase h, if_neg (mt List.mem_singleton.mpr hq)]
  folders_eq _ hq _ := folders_erase (ne_tail_of_not_suffix hq)

theorem write_around {path : String} {content : Bytes} (h : t.write path content = .ok t')
    (way : Place) : ChangesAround way [(Path.ofString path).place] t t' := by
  obtain ⟨hopen, -, rfl⟩ := writeAt_eq h
  exact hopen.put_around _ way

theorem HasFile.rename_around {source target : String} {f : File} (hsource : t.HasFile source f)
    (h : t.rename source target = .ok t') (way : Place) :
    ChangesAround way [(Path.ofString source).place, (Path.ofString target).place] t t' := by
  obtain ⟨hopen, -, rfl⟩ := hsource.rename_eq h
  have hleft := IsOpen.erase hsource.entryAt?_ne hopen
  have hfree := IsOpen.erase hleft.entryAt?_ne hleft
  exact (((erase_around hsource.entryAt?_ne way).mono List.suffix_rfl (by simp)).trans
    ((erase_around hleft.entryAt?_ne way).mono List.suffix_rfl (by simp))).trans
      ((hfree.put_around _ way).mono List.suffix_rfl (by simp))

/-! ## Making directories -/

theorem makeDirectory_around (h : t.makeDirectory p = .ok t') :
    ChangesAround p.place [] t t' := by
  obtain ⟨-, -, hopen, rfl⟩ := makeDirectory_eq h
  have hput := hopen.put_around .directory p.place
  have hnot : ∀ {q}, ¬q <:+ p.place → ∀ p' ∈ [p.place], ¬q <:+ p' := by
    intro q hway p' hp'
    rwa [List.mem_singleton.mp hp']
  refine ⟨hput.now_eq, hput.directory, fun q _ hway => hput.entryAt?_eq q ?_ hway,
    fun q _ hway => ?_⟩
  · exact fun hmem => hnot hway q hmem List.suffix_rfl
  · have hne : q ≠ p.place := fun hsame => hway (hsame ▸ List.suffix_rfl)
    exact (folders_touch hne).trans (hput.folders_eq q (hnot hway) hway)

/-- The directories that are made are on the way to the last. -/
theorem makeSteps_around (isAbsolute : Bool) (t : FileTree) {names : List String}
    (hplain : ".." ∉ names) :
    ChangesAround (stepsPath isAbsolute names).place [] t (makeSteps isAbsolute t names).2 := by
  refine makeSteps_keeps (.refl _ []) .trans isAbsolute (fun outer houter _ _ hmade => ?_) t
  refine (makeDirectory_around hmade).mono ?_ (.refl [])
  obtain ⟨inner, rfl⟩ := houter
  have hinner : ".." ∉ inner.reverse := fun hmem =>
    hplain (List.mem_append_left _ (List.mem_reverse.mp hmem))
  have hsteps : (stepsPath isAbsolute (inner ++ outer)).steps = outer.reverse ++ inner.reverse :=
    List.reverse_append
  rw [Path.place, Path.place, hsteps, List.foldl_append]
  exact Place.suffix_foldl_step hinner _

theorem makeParent_around (t : FileTree) {path : String}
    (hplain : (Path.ofString path).IsPlain) :
    ChangesAround (Path.ofString path).place.tail [] t (t.makeParent path).2 := by
  unfold makeParent
  cases hparent : (Path.ofString path).parent? with
  | none => exact .refl _ _ t
  | some parent =>
    obtain ⟨hplain', hplace⟩ := parent_place hplain hparent
    have hnames : ".." ∉ parent.significantSteps.reverse :=
      fun hmem => mem_significantSteps hplain' (List.mem_reverse.mp hmem)
    have haround := makeSteps_around parent.isAbsolute t hnames
    rwa [significant_place hplain', hplace] at haround

end TagRules.FileTree
