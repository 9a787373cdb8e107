import TagRules.Proofs.Surroundings.Changes

/-
  When a path can be followed, and when a file can be put at its place.

  For a path that does not go back, in a tree in which everything is in a directory, the
  text of the path decides most of it: whether it is sound, and whether it ends with a name.
  The tree adds what is at the place of the path (`find_congr`), and whether that place is
  open (`filePlace_isOk_iff`).
-/

namespace TagRules

open Text

namespace Path

/-- Whether nothing is wrong with the text of a path or with that of its steps. -/
structure IsSound (p : Path) : Prop where
  fault?_eq : p.fault? = none
  short : ∀ name ∈ p.steps, name.utf8ByteSize ≤ stepLimit

/-- Whether a path ends with the name of a file. -/
structure IsNamed (p : Path) : Prop extends IsSound p where
  slash_eq : p.endsWithSlash = false
  last : ∃ outer name, p.steps = outer ++ [name] ∧ name ≠ "." ∧ name ≠ ".."

theorem isPlain_iff {p : Path} {outer : List String} {name : String}
    (hsteps : p.steps = outer ++ [name]) : p.IsPlain ↔ ".." ∉ outer ∧ name ≠ ".." := by
  unfold IsPlain
  rw [hsteps, List.mem_append, List.mem_singleton, not_or, ne_eq, eq_comm (a := name)]

theorem place_eq_cons {p : Path} {outer : List String} {name : String}
    (hsteps : p.steps = outer ++ [name]) (hdot : name ≠ ".") (hback : name ≠ "..") :
    p.place = name :: outer.foldl Place.step (FileTree.start p) := by
  rw [place, hsteps, List.foldl_append, List.foldl_cons, List.foldl_nil,
    Place.step_name hdot hback]

theorem IsNamed.place_ne_nil {p : Path} (h : p.IsNamed) : p.place ≠ [] := by
  obtain ⟨outer, name, hsteps, hdot, hback⟩ := h.last
  rw [place_eq_cons hsteps hdot hback]
  exact List.cons_ne_nil _ _

end Path

namespace FileTree

variable {t t' : FileTree} {place q : Place} {steps : List String} {p : Path}

theorem start_isGiven (p : Path) : Place.isGiven (start p) = true := by
  unfold start
  split <;> rfl

/-! ## Following steps -/

theorem walk_short (h : t.walk place steps = .ok q) :
    ∀ name ∈ steps, name.utf8ByteSize ≤ Path.stepLimit := by
  induction steps generalizing place with
  | nil => simp
  | cons name rest ih =>
    obtain ⟨-, hsize, hrest⟩ := (walk_cons t place name rest q).mp h
    exact List.forall_mem_cons.mpr ⟨hsize, ih hrest⟩

namespace Rooted

theorem walk_of_directory (h : t.Rooted) (hplain : ".." ∉ steps)
    (hshort : ∀ name ∈ steps, name.utf8ByteSize ≤ Path.stepLimit)
    (hdir : t.entryAt? (steps.foldl Place.step place) = some .directory) :
    t.walk place steps = .ok (steps.foldl Place.step place) := by
  induction steps generalizing place with
  | nil => rfl
  | cons name rest ih =>
    obtain ⟨hsize, hrest⟩ := List.forall_mem_cons.mp hshort
    have hhere := h.entryAt?_of_suffix hdir (Place.suffix_foldl_step hplain place)
    exact (walk_cons t place name rest _).mpr
      ⟨hhere, hsize, ih (fun hmem => hplain (List.mem_cons_of_mem _ hmem)) hrest hdir⟩

theorem walk_dot_iff (h : t.Rooted) (hplain : ".." ∉ steps) :
    t.walk place (steps ++ ["."]) = .ok q ↔
      (∀ name ∈ steps, name.utf8ByteSize ≤ Path.stepLimit) ∧
        q = steps.foldl Place.step place ∧ t.entryAt? q = some .directory := by
  rw [walk_append]
  constructor
  · rintro ⟨between, hwalk, hdot⟩
    obtain ⟨hdir, rfl⟩ := (walk_dot t between q).mp hdot
    exact ⟨walk_short hwalk, walk_eq hwalk, hdir⟩
  · rintro ⟨hshort, rfl, hdir⟩
    exact ⟨_, h.walk_of_directory hplain hshort hdir, (walk_dot t _ _).mpr ⟨hdir, rfl⟩⟩

end Rooted

/-- Steps that are not too long can be followed up to the first place where nothing is, if there is
no file on the way. -/
theorem walk_of_clear (hplain : ".." ∉ steps)
    (hshort : ∀ name ∈ steps, name.utf8ByteSize ≤ Path.stepLimit)
    (hclear : ∀ q, q <:+ steps.foldl Place.step place → t.fileAt? q = none) :
    t.walk place steps = .ok (steps.foldl Place.step place) ∨
      t.walk place steps = .error .missing := by
  induction steps generalizing place with
  | nil => exact .inl rfl
  | cons name rest ih =>
    obtain ⟨hsize, hrest⟩ := List.forall_mem_cons.mp hshort
    have hhere := hclear place (Place.suffix_foldl_step hplain place)
    unfold walk
    cases hentry : t.entryAt? place with
    | none => exact .inr rfl
    | some e =>
      cases e with
      | file f =>
        rw [fileAt?_eq_some.mpr hentry] at hhere
        cases hhere
      | directory =>
        dsimp only
        rw [if_neg (Nat.not_lt_of_le hsize)]
        exact ih (fun hmem => hplain (List.mem_cons_of_mem _ hmem)) hrest hclear

/-! ## What is at a path -/

theorem Rooted.find_of_entryAt? (h : t'.Rooted) (hplain : p.IsPlain)
    (hsame : t'.entryAt? p.place = t.entryAt? p.place) {e : Entry} (hfind : t.find p = .ok e) :
    t'.find p = .ok e := by
  obtain ⟨hfault, hwalk, hentry⟩ := find_eq_ok.mp hfind
  have hsteps : ".." ∉ p.steps ++ if p.endsWithSlash then ["."] else [] := by
    rw [List.mem_append, not_or]
    refine ⟨hplain, ?_⟩
    split <;> decide
  have hwalk' := h.walk_of_entryAt? hsteps hwalk (by simp [hentry]) hsame
  exact find_eq_ok.mpr ⟨hfault, hwalk', hsame.trans hentry⟩

theorem find_congr (h : t.Rooted) (h' : t'.Rooted) (hplain : p.IsPlain)
    (hsame : t'.entryAt? p.place = t.entryAt? p.place) (e : Entry) :
    t'.find p = .ok e ↔ t.find p = .ok e :=
  ⟨h.find_of_entryAt? hplain hsame.symm, h'.find_of_entryAt? hplain hsame⟩

/-! ## Where a file can be put -/

theorem Rooted.slot_eq_free_iff (h : t.Rooted) (hplain : p.IsPlain) :
    t.slot p = .ok (.free place false) ↔
      p.IsNamed ∧ place = p.place ∧ t.entryAt? p.place.tail = some .directory := by
  constructor
  · intro hslot
    obtain ⟨hfault, hslash, rfl, hwalk, hlast, name, parent, hplace, hdir⟩ := slot_eq_free hslot
    refine ⟨⟨⟨hfault, walk_short hwalk⟩, hslash.symm, hlast⟩, rfl, ?_⟩
    rwa [hplace]
  · rintro ⟨hnamed, rfl, hdir⟩
    obtain ⟨outer, name, hsteps, hdot, hback⟩ := hnamed.last
    have hshort := hnamed.short
    rw [hsteps, List.forall_mem_append] at hshort
    rw [Path.place_eq_cons hsteps hdot hback, List.tail_cons] at hdir
    have houter := ((Path.isPlain_iff hsteps).mp hplain).1
    have hparent := (h.walk_dot_iff houter).mpr ⟨hshort.1, rfl, hdir⟩
    have hsize : ¬Path.stepLimit < name.utf8ByteSize := Nat.not_lt_of_le (hshort.2 name (by simp))
    rw [slot_of_steps hnamed.fault?_eq hsteps, Path.place_eq_cons hsteps hdot hback]
    exact bind_eq_ok.mpr ⟨_, hparent, by simp [hdot, hback, hsize, hnamed.slash_eq]⟩

theorem IsOpen.entryAt?_tail (h : t.IsOpen place) : t.entryAt? place.tail = some .directory := by
  obtain ⟨name, parent, rfl, hparent⟩ := h.parent
  exact hparent

theorem isOpen_of_named (hnamed : p.IsNamed) (hdir : t.entryAt? p.place.tail = some .directory)
    (hnot : t.entryAt? p.place ≠ some .directory) : t.IsOpen p.place := by
  obtain ⟨outer, name, hsteps, hdot, hback⟩ := hnamed.last
  have hplace := Path.place_eq_cons hsteps hdot hback
  exact ⟨hnot, name, _, hplace, by rwa [hplace] at hdir⟩

theorem Rooted.filePlace_isOk_iff (h : t.Rooted) {path : String}
    (hplain : (Path.ofString path).IsPlain) :
    (∃ place, t.filePlace path = .ok place) ↔
      (Path.ofString path).IsNamed ∧ t.IsOpen (Path.ofString path).place := by
  constructor
  · rintro ⟨place, hplace⟩
    obtain ⟨rfl, hopen, hslot⟩ := filePlace_eq_ok hplace
    exact ⟨((h.slot_eq_free_iff hplain).mp hslot).1, hopen⟩
  · rintro ⟨hnamed, hopen⟩
    have hslot := (h.slot_eq_free_iff hplain).mpr ⟨hnamed, rfl, hopen.entryAt?_tail⟩
    refine ⟨(Path.ofString path).place, bind_eq_ok.mpr ⟨_, hslot, ?_⟩⟩
    dsimp only
    split
    · next hentry => exact absurd hentry hopen.entryAt?_ne
    · rfl
    · rfl

theorem Rooted.write_isOk_iff (h : t.Rooted) {path : String}
    (hplain : (Path.ofString path).IsPlain) (content : Bytes) :
    (∃ t', t.write path content = .ok t') ↔
      (Path.ofString path).IsNamed ∧ t.IsOpen (Path.ofString path).place := by
  rw [← h.filePlace_isOk_iff hplain]
  unfold write writeAt
  cases t.filePlace path <;> simp [Except.map]

theorem HasFile.rename_isOk_iff {source target : String} {f : File} (hsource : t.HasFile source f)
    (h : t.Rooted) (hplain : (Path.ofString target).IsPlain) :
    (∃ t', t.rename source target = .ok t') ↔
      (Path.ofString target).IsNamed ∧ t.IsOpen (Path.ofString target).place := by
  have hentry := fileAt?_eq_some.mp hsource.fileAt?_eq
  rw [← h.filePlace_isOk_iff hplain]
  unfold rename filePlace
  rw [hsource.slot_eq]
  cases hslot : t.slot (Path.ofString target) with
  | error fault => simp [Bind.bind, Except.bind]
  | ok slot =>
    simp only [Bind.bind, Except.bind]
    cases slot with
    | reserved => simp
    | free place slash =>
      simp only [hentry]
      cases slash with
      | true => simp
      | false =>
        simp only [Bool.false_eq_true, if_false]
        split <;> simp

end FileTree

end TagRules
