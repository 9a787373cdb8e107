import TagRules.Proofs.Surroundings.Reachable

/-
  When the directory for a file can be made.

  The directories that a path is in are made one by one, each tried before and after those
  it is in.  For a path that does not go back this succeeds exactly if the text of the path is
  sound and no file is in the way (`makeSteps_eq_ok_iff`); which of the directories are there
  already makes no difference.
-/

namespace TagRules

namespace FileTree

variable {t t' : FileTree} {p : Path}

theorem fault?_eq_none_iff :
    p.fault? = none ↔
      (∀ step ∈ p.steps, '\x00' ∉ step.toList) ∧ (p.steps = [] → p.isAbsolute = true) ∧
        p.size < Path.sizeLimit := by
  have hnul : (p.steps.any fun step => step.toList.contains '\x00') = true ↔
      ¬∀ step ∈ p.steps, '\x00' ∉ step.toList := by simp
  have hempty : (p.steps.isEmpty && !p.isAbsolute) = true ↔
      ¬(p.steps = [] → p.isAbsolute = true) := by simp
  unfold Path.fault?
  constructor
  · intro h
    split at h
    · cases h
    · next hclean =>
      split at h
      · cases h
      · next hsteps =>
        split at h
        · cases h
        · next hsize =>
          exact ⟨Decidable.not_not.mp (mt hnul.mpr hclean),
            Decidable.not_not.mp (mt hempty.mpr hsteps), Nat.lt_of_not_le hsize⟩
  · rintro ⟨hclean, hsteps, hsize⟩
    rw [if_neg fun h => hnul.mp h hclean, if_neg fun h => hempty.mp h hsteps,
      if_neg (Nat.not_le_of_lt hsize)]

theorem isDirectory_iff : t.isDirectory p = true ↔ t.find p = .ok .directory := by
  unfold isDirectory
  split <;> simp_all

theorem isSound_of_find {e : Entry} (h : t.find p = .ok e) : p.IsSound := by
  obtain ⟨hfault, hwalk, -⟩ := find_eq_ok.mp h
  exact ⟨hfault, fun name hname => walk_short hwalk name (List.mem_append_left _ hname)⟩

theorem makeDirectory_directory (h : t.makeDirectory p = .ok t') :
    p.IsSound ∧ t'.entryAt? p.place = some .directory := by
  obtain ⟨hslot, -, hopen, rfl⟩ := makeDirectory_eq h
  obtain ⟨hfault, -, -, hwalk, -⟩ := slot_eq_free hslot
  exact ⟨⟨hfault, walk_short hwalk⟩,
    by rw [entryAt?_touch, entryAt?_put hopen.entryAt?_ne, if_pos rfl]⟩

theorem Rooted.isDirectory_of_sound (h : t.Rooted) (hplain : p.IsPlain) (hsound : p.IsSound)
    (hdir : t.entryAt? p.place = some .directory) : t.isDirectory p = true := by
  refine isDirectory_iff.mpr (find_eq_ok.mpr ⟨hsound.fault?_eq, ?_, hdir⟩)
  have hwalk := h.walk_of_directory hplain hsound.short hdir
  split
  · exact (walk_append t _ _ _ _).mpr ⟨_, hwalk, (walk_dot t _ _).mpr ⟨hdir, rfl⟩⟩
  · rwa [List.append_nil]

/-- A sound path with steps and no file on the way. -/
structure IsClearFor (t : FileTree) (p : Path) (outer : List String) (name : String) : Prop where
  steps_eq : p.steps = outer ++ [name]
  plain : p.IsPlain
  sound : p.IsSound
  clear : ∀ q, q <:+ p.place → t.fileAt? q = none

namespace IsClearFor

variable {outer : List String} {name : String}

theorem plain_steps (h : t.IsClearFor p outer name) : ".." ∉ outer ∧ name ≠ ".." :=
  (Path.isPlain_iff h.steps_eq).mp h.plain

theorem short (h : t.IsClearFor p outer name) :
    (∀ step ∈ outer, step.utf8ByteSize ≤ Path.stepLimit) ∧
      name.utf8ByteSize ≤ Path.stepLimit := by
  have hshort := h.sound.short
  rw [h.steps_eq, List.forall_mem_append] at hshort
  exact ⟨hshort.1, hshort.2 name (List.mem_singleton_self _)⟩

theorem place_eq (h : t.IsClearFor p outer name) :
    p.place = (outer.foldl Place.step (start p)).step name := by
  rw [Path.place, h.steps_eq, List.foldl_append, List.foldl_cons, List.foldl_nil]

theorem suffix_place (h : t.IsClearFor p outer name) :
    outer.foldl Place.step (start p) <:+ p.place := by
  have hname : ".." ∉ [name] := by simpa using Ne.symm h.plain_steps.2
  rw [h.place_eq]
  exact Place.suffix_foldl_step hname _

theorem makeDirectory_of_directory (h : t.IsClearFor p outer name) (ht : t.Rooted)
    (hdir : t.entryAt? (outer.foldl Place.step (start p)) = some .directory) :
    (∃ t', t.makeDirectory p = .ok t') ∨
      t.makeDirectory p = .error .taken ∧ t.isDirectory p = true := by
  have hparent := (ht.walk_dot_iff h.plain_steps.1).mpr ⟨h.short.1, rfl, hdir⟩
  have hslot := slot_of_steps (t := t) h.sound.fault?_eq h.steps_eq
  have hthere := ht.isDirectory_of_sound h.plain h.sound
  have hback := h.plain_steps.2
  rw [hparent] at hslot
  unfold makeDirectory
  by_cases hdot : name = "."
  · -- A step that stays is no name, and leads to the directory that is there.
    rw [h.place_eq, hdot, Place.step_dot] at hthere
    right
    rw [hslot]
    simp [hdot, hthere hdir, Bind.bind, Except.bind]
  · have hsize : ¬Path.stepLimit < name.utf8ByteSize := Nat.not_lt_of_le h.short.2
    have hplace := Path.place_eq_cons h.steps_eq hdot hback
    rw [hslot]
    simp only [Bind.bind, Except.bind, hdot, hback, hsize, beq_iff_eq, if_false,
      Bool.or_eq_true, or_self]
    rw [← hplace]
    cases hentry : t.entryAt? p.place with
    | none => exact .inl ⟨_, rfl⟩
    | some e =>
      cases e with
      | directory => exact .inr ⟨rfl, hthere hentry⟩
      | file f =>
        have hclear := h.clear p.place List.suffix_rfl
        rw [fileAt?_eq_some.mpr hentry] at hclear
        cases hclear

theorem makeDirectory_of_not (h : t.IsClearFor p outer name) (ht : t.Rooted)
    (hdir : t.entryAt? (outer.foldl Place.step (start p)) ≠ some .directory) :
    t.makeDirectory p = .error .missing := by
  have hend : (outer ++ ["."]).foldl Place.step (start p) = outer.foldl Place.step (start p) := by
    rw [List.foldl_append, List.foldl_cons, List.foldl_nil, Place.step_dot]
  have hwalk : t.walk (start p) (outer ++ ["."]) = .error .missing := by
    have hshort : ∀ step ∈ outer ++ ["."], step.utf8ByteSize ≤ Path.stepLimit :=
      List.forall_mem_append.mpr ⟨h.short.1, by decide⟩
    have hplain : ".." ∉ outer ++ ["."] := by simp [h.plain_steps.1]
    refine (walk_of_clear hplain hshort ?_).resolve_left ?_
    · rw [hend]
      exact fun q hq => h.clear q (hq.trans h.suffix_place)
    · intro hok
      obtain ⟨-, -, hthere⟩ := (ht.walk_dot_iff h.plain_steps.1).mp hok
      rw [hend] at hthere
      exact hdir hthere
  unfold makeDirectory
  rw [slot_of_steps h.sound.fault?_eq h.steps_eq, hwalk]
  rfl

end IsClearFor

/-! ## Making steps -/

variable {isAbsolute : Bool} {names : List String}

/-- The path of some steps, given last first. -/
def stepsPath (isAbsolute : Bool) (names : List String) : Path :=
  Path.ofSteps isAbsolute names.reverse

theorem isSound_outer {name : String} {outer : List String}
    (h : (stepsPath isAbsolute (name :: outer)).IsSound) (houter : outer ≠ []) :
    (stepsPath isAbsolute outer).IsSound := by
  obtain ⟨hfault, hshort⟩ := h
  obtain ⟨hnul, -, hsize⟩ := fault?_eq_none_iff.mp hfault
  -- Without its last step the path is shorter and has no other steps.
  unfold stepsPath Path.ofSteps at hnul hsize hshort ⊢
  simp only [List.reverse_cons, List.foldl_append, List.foldl_cons, List.foldl_nil,
    List.forall_mem_append] at hnul hsize hshort
  refine ⟨fault?_eq_none_iff.mpr ⟨hnul.1, ?_, ?_⟩, hshort.1⟩
  · exact fun hnil => absurd (List.reverse_eq_nil_iff.mp hnil) houter
  · dsimp only
    split at hsize <;> split <;> simp_all <;> omega

theorem directory_of_unlessDirectory {fault : FileFault}
    (h : t.unlessDirectory p fault = .ok ()) :
    p.IsSound ∧ t.entryAt? p.place = some .directory := by
  unfold unlessDirectory at h
  split at h
  · next hdir =>
    have hfind := isDirectory_iff.mp hdir
    exact ⟨isSound_of_find hfind, (find_eq_ok.mp hfind).2.2⟩
  · cases h

theorem makeSteps_directory (h : makeSteps isAbsolute t names = (.ok (), t')) :
    (names ≠ [] → (stepsPath isAbsolute names).IsSound) ∧
      t'.entryAt? (stepsPath isAbsolute names).place = some .directory := by
  cases names with
  | nil => exact ⟨fun hne => absurd rfl hne, entryAt?_isGiven t' (start_isGiven _)⟩
  | cons name outer =>
    suffices hdone : (stepsPath isAbsolute (name :: outer)).IsSound ∧
        t'.entryAt? (stepsPath isAbsolute (name :: outer)).place = some .directory from
      ⟨fun _ => hdone.1, hdone.2⟩
    -- However it went, in the end the directory was made, or one is at its path.
    dsimp only [makeSteps] at h
    split at h
    · next made hmade =>
      obtain rfl := (Prod.mk.inj h).2
      exact makeDirectory_directory hmade
    · split at h
      · cases h
      · next outside hsteps =>
        split at h
        · next made hmade =>
          obtain rfl := (Prod.mk.inj h).2
          exact makeDirectory_directory hmade
        · obtain ⟨hthere, rfl⟩ := Prod.mk.inj h
          exact directory_of_unlessDirectory hthere
    · obtain ⟨hthere, rfl⟩ := Prod.mk.inj h
      exact directory_of_unlessDirectory hthere

theorem makeSteps_of_clear (ht : t.Rooted) (hplain : ".." ∉ names)
    (hsound : names ≠ [] → (stepsPath isAbsolute names).IsSound)
    (hclear : ∀ q, q <:+ (stepsPath isAbsolute names).place → t.fileAt? q = none) :
    (makeSteps isAbsolute t names).1 = .ok () := by
  induction names with
  | nil => rfl
  | cons name outer ih =>
    have hsteps : (stepsPath isAbsolute (name :: outer)).steps = outer.reverse ++ [name] :=
      List.reverse_cons
    have hway : t.IsClearFor (stepsPath isAbsolute (name :: outer)) outer.reverse name :=
      ⟨hsteps, fun hmem => hplain (List.mem_reverse.mp hmem), hsound (List.cons_ne_nil _ _), hclear⟩
    have houter := ih (fun hmem => hplain (List.mem_cons_of_mem _ hmem))
      (isSound_outer (hsound (List.cons_ne_nil _ _)))
      (fun q hq => hclear q (hq.trans hway.suffix_place))
    have hpath : Path.ofSteps isAbsolute (name :: outer).reverse =
      stepsPath isAbsolute (name :: outer) := rfl
    dsimp only [makeSteps]
    rw [hpath]
    -- Either the directory can be made at once, or it is there, or the one it is in is missing.
    by_cases hdir : t.entryAt? (outer.reverse.foldl Place.step (start
        (stepsPath isAbsolute (name :: outer)))) = some .directory
    · rcases hway.makeDirectory_of_directory ht hdir with ⟨made, hmade⟩ | ⟨htaken, hthere⟩
      · rw [hmade]
      · rw [htaken]
        simp [unlessDirectory, hthere]
    · -- The directories in front are made first, and then there is one to make it in.
      rw [hway.makeDirectory_of_not ht hdir]
      rcases hrun : makeSteps isAbsolute t outer with ⟨result, outside⟩
      rw [hrun] at houter
      obtain rfl : result = .ok () := houter
      have hchanges := makeSteps_changes isAbsolute t outer
      rw [hrun] at hchanges
      have hway' : outside.IsClearFor (stepsPath isAbsolute (name :: outer)) outer.reverse name :=
        { hway with
          clear := fun q hq =>
            (hchanges.fileAt?_eq q List.not_mem_nil).trans (hclear q hq) }
      have hthere := (makeSteps_directory hrun).2
      rcases hway'.makeDirectory_of_directory (hchanges.rooted ht) hthere with
        ⟨made, hmade⟩ | ⟨htaken, hthere⟩
      · dsimp only
        rw [hmade]
      · dsimp only
        rw [htaken]
        simp [unlessDirectory, hthere]

/-- The directories of some steps can be made exactly if their path is sound and no file is in the
way. -/
theorem makeSteps_eq_ok_iff (ht : t.Rooted) (hplain : ".." ∉ names) :
    (makeSteps isAbsolute t names).1 = .ok () ↔
      (names ≠ [] → (stepsPath isAbsolute names).IsSound) ∧
        ∀ q, q <:+ (stepsPath isAbsolute names).place → t.fileAt? q = none := by
  constructor
  · intro hok
    obtain ⟨hsound, hdir⟩ := makeSteps_directory (Prod.ext hok rfl)
    have hchanges := makeSteps_changes isAbsolute t names
    refine ⟨hsound, fun q hq => ?_⟩
    have hthere := (hchanges.rooted ht).entryAt?_of_suffix hdir hq
    -- There are directories up to the last, and no file was put or taken away.
    rw [← hchanges.fileAt?_eq q List.not_mem_nil]
    unfold fileAt?
    rw [hthere]
  · rintro ⟨hsound, hclear⟩
    exact makeSteps_of_clear ht hplain hsound hclear

/-! ## The directory that a path is in -/

theorem filter_significantSteps (p : Path) :
    p.significantSteps.filter (· != ".") = p.steps.filter (· != ".") := by
  unfold Path.significantSteps
  cases p.steps with
  | nil => rfl
  | cons first rest =>
    by_cases hdot : first = "."
    · cases p.isAbsolute <;> simp [hdot]
    · simp [hdot]

theorem mem_significantSteps (hplain : p.IsPlain) : ".." ∉ p.significantSteps := by
  intro hmem
  have hfiltered : ".." ∈ p.significantSteps.filter (· != ".") :=
    List.mem_filter.mpr ⟨hmem, by decide⟩
  rw [filter_significantSteps] at hfiltered
  exact hplain (List.mem_filter.mp hfiltered).1

theorem significant_place (hplain : p.IsPlain) :
    (stepsPath p.isAbsolute p.significantSteps.reverse).place = p.place := by
  have hstart : start (stepsPath p.isAbsolute p.significantSteps.reverse) = start p := rfl
  have hsteps : (stepsPath p.isAbsolute p.significantSteps.reverse).steps = p.significantSteps :=
    List.reverse_reverse _
  rw [Path.place, Path.place, hsteps, hstart, Place.foldl_step (mem_significantSteps hplain),
    Place.foldl_step hplain, filter_significantSteps]

/-- Whether the directory of a path can be made, as far as texts decide it. -/
def IsMakeable (p : Path) : Prop :=
  p.significantSteps ≠ [] → (stepsPath p.isAbsolute p.significantSteps.reverse).IsSound

theorem makeDirectories_eq_ok_iff (ht : t.Rooted) (hplain : p.IsPlain) :
    (t.makeDirectories p).1 = .ok () ↔
      IsMakeable p ∧ ∀ q, q <:+ p.place → t.fileAt? q = none := by
  have hnames : ".." ∉ p.significantSteps.reverse :=
    fun hmem => mem_significantSteps hplain (List.mem_reverse.mp hmem)
  unfold makeDirectories
  rw [makeSteps_eq_ok_iff ht hnames, significant_place hplain, ne_eq, List.reverse_eq_nil_iff]
  rfl

theorem makeDirectories_directory (hplain : p.IsPlain)
    (h : t.makeDirectories p = (.ok (), t')) : t'.entryAt? p.place = some .directory := by
  rw [← significant_place hplain]
  exact (makeSteps_directory h).2

/-- Only a path that stays where it begins has a last step that is no name. -/
theorem significantSteps_dot {inner : List String} (h : p.significantSteps = inner ++ ["."]) :
    inner = [] ∧ p.isAbsolute = false := by
  have hnot : ∀ rest : List String, "." ∉ rest.filter (· != ".") := by simp
  unfold Path.significantSteps at h
  cases hsteps : p.steps with
  | nil => simp [hsteps] at h
  | cons first rest =>
    simp only [hsteps] at h
    split at h
    · exact absurd (h ▸ List.mem_append_right inner (List.mem_singleton_self ".")) (hnot rest)
    · next hkept =>
      cases inner with
      | nil =>
        obtain ⟨rfl, -⟩ := List.cons.inj h
        exact ⟨rfl, by simpa using hkept⟩
      | cons other inner =>
        obtain ⟨-, hrest⟩ := List.cons.inj h
        exact absurd (hrest ▸ List.mem_append_right inner (List.mem_singleton_self ".")) (hnot rest)

theorem parent?_eq_some {parent : Path} (h : p.parent? = some parent) :
    ∃ inner name, p.significantSteps = inner ++ [name] ∧
      parent = Path.ofSteps p.isAbsolute inner := by
  unfold Path.parent? at h
  split at h
  · cases h
  · next first rest hsteps =>
    refine ⟨p.significantSteps.dropLast, p.significantSteps.getLast (by simp [hsteps]), ?_, ?_⟩
    · exact (List.dropLast_concat_getLast _).symm
    · rw [hsteps]
      exact (Option.some.inj h).symm

theorem parent_place {parent : Path} (hplain : p.IsPlain) (h : p.parent? = some parent) :
    parent.IsPlain ∧ parent.place = p.place.tail := by
  obtain ⟨inner, name, hsteps, rfl⟩ := parent?_eq_some h
  have hnames := mem_significantSteps hplain
  rw [hsteps, List.mem_append, List.mem_singleton, not_or] at hnames
  have hstart : start (stepsPath p.isAbsolute (inner ++ [name]).reverse) =
    start (Path.ofSteps p.isAbsolute inner) := rfl
  have hpath : (stepsPath p.isAbsolute (inner ++ [name]).reverse).steps = inner ++ [name] :=
    List.reverse_reverse _
  have hplace : p.place = (Path.ofSteps p.isAbsolute inner).place.step name := by
    rw [← significant_place hplain, hsteps, Path.place, hpath, hstart, List.foldl_append]
    rfl
  refine ⟨hnames.1, ?_⟩
  rw [hplace]
  by_cases hdot : name = "."
  · rw [hdot] at hsteps
    obtain ⟨rfl, hrelative⟩ := significantSteps_dot hsteps
    rw [hdot, hrelative]
    rfl
  · rw [Place.step_name hdot (Ne.symm hnames.2), List.tail_cons]

theorem parent?_isSome (h : p.IsNamed) : ∃ parent, p.parent? = some parent := by
  obtain ⟨outer, name, hsteps, hdot, -⟩ := h.last
  have hmem : name ∈ p.significantSteps.filter (· != ".") := by
    rw [filter_significantSteps, hsteps]
    simp [hdot]
  unfold Path.parent?
  split
  · next hnil => simp [hnil] at hmem
  · exact ⟨_, rfl⟩

/-- Whether the directory that a path is in can be made, as far as texts decide it. -/
def IsParentMakeable (p : Path) : Prop := ∀ parent, p.parent? = some parent → IsMakeable parent

/-- For a file, the directory it is in can be made if no file is in the way. -/
theorem makeParent_eq_ok_iff {path : String} (ht : t.Rooted)
    (hplain : (Path.ofString path).IsPlain) (hnamed : (Path.ofString path).IsNamed) :
    (t.makeParent path).1 = .ok () ↔
      IsParentMakeable (Path.ofString path) ∧
        ∀ q, q <:+ (Path.ofString path).place.tail → t.fileAt? q = none := by
  obtain ⟨parent, hparent⟩ := parent?_isSome hnamed
  obtain ⟨hplain', hplace⟩ := parent_place hplain hparent
  unfold makeParent IsParentMakeable
  rw [hparent, ← hplace]
  dsimp only
  rw [makeDirectories_eq_ok_iff ht hplain']
  simp

theorem makeParent_directory {path : String} (hplain : (Path.ofString path).IsPlain)
    (hnamed : (Path.ofString path).IsNamed) (h : t.makeParent path = (.ok (), t')) :
    t'.entryAt? (Path.ofString path).place.tail = some .directory := by
  obtain ⟨parent, hparent⟩ := parent?_isSome hnamed
  obtain ⟨hplain', hplace⟩ := parent_place hplain hparent
  unfold makeParent at h
  rw [hparent] at h
  rw [← hplace]
  exact makeDirectories_directory hplain' h

end FileTree

end TagRules
