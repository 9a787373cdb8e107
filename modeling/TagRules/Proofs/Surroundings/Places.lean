import TagRules.Surroundings.FileTree

/-
  Where a path leads to.

  Following steps ends at a place that the steps alone decide (`walk_eq`); the tree only
  decides whether it can be reached.  In a tree in which everything is in a directory
  (`Rooted`), and for a path that does not go back (`IsPlain`), a file that is there
  can be reached, so that the content of a path depends on the tree only in what file is at
  the place of the path (`content?_congr`).  A path that goes back is different: making a
  directory that it leaves again lets it reach a file that it did not reach before.
-/

namespace TagRules

open Text

theorem bind_eq_ok {ε α β : Type} {x : Except ε α} {f : α → Except ε β} {b : β} :
    (x >>= f) = .ok b ↔ ∃ a, x = .ok a ∧ f a = .ok b := by
  cases x <;> simp [Bind.bind, Except.bind]

theorem bind_eq_error {ε α β : Type} {x : Except ε α} {f : α → Except ε β} {fault : ε} :
    (x >>= f) = .error fault ↔ x = .error fault ∨ ∃ a, x = .ok a ∧ f a = .error fault := by
  cases x <;> simp [Bind.bind, Except.bind]

theorem mapError_eq_ok {ε δ α : Type} {x : Except ε α} {f : ε → δ} {a : α} :
    x.mapError f = .ok a ↔ x = .ok a := by
  cases x with
  | error fault => exact ⟨nofun, nofun⟩
  | ok b => exact ⟨fun h => congrArg _ (Except.ok.inj h), fun h => congrArg _ (Except.ok.inj h)⟩

theorem mapError_eq_error {ε δ α : Type} {x : Except ε α} {f : ε → δ} {fault : δ} :
    x.mapError f = .error fault ↔ ∃ e, x = .error e ∧ f e = fault := by
  cases x with
  | error e =>
    constructor
    · exact fun h => ⟨e, rfl, Except.error.inj h⟩
    · rintro ⟨_, ⟨⟩, rfl⟩
      rfl
  | ok b =>
    constructor
    · exact nofun
    · rintro ⟨_, ⟨⟩, -⟩

theorem eq_ok_of_toOption {ε α : Type} {x : Except ε α} {a : α} (h : x.toOption = some a) :
    x = .ok a := by
  cases x with
  | error fault => cases h
  | ok b => exact congrArg Except.ok (Option.some.inj h)

namespace Path

/-- The place that the steps of a path lead to. -/
def place (p : Path) : Place := p.steps.foldl Place.step (FileTree.start p)

/-- Whether a path never goes back. -/
def IsPlain (p : Path) : Prop := ".." ∉ p.steps

instance (p : Path) : Decidable p.IsPlain := inferInstanceAs (Decidable (".." ∉ p.steps))

end Path

/-! ## Steps -/

theorem Place.step_dot (place : Place) : place.step "." = place := rfl

theorem Place.step_name {name : String} (hdot : name ≠ ".") (hback : name ≠ "..") (place : Place) :
    place.step name = name :: place := by
  simp [Place.step, hdot, hback]

/-- Steps that do not go back put their names before a place. -/
theorem Place.foldl_step {steps : List String} (h : ".." ∉ steps) (place : Place) :
    steps.foldl Place.step place = (steps.filter (· != ".")).reverse ++ place := by
  induction steps generalizing place with
  | nil => rfl
  | cons name rest ih =>
    rw [List.mem_cons, not_or] at h
    rw [List.foldl_cons, ih h.2]
    by_cases hdot : name = "."
    · simp [hdot, Place.step_dot]
    · simp [hdot, Place.step_name hdot (Ne.symm h.1)]

theorem Place.suffix_foldl_step {steps : List String} (h : ".." ∉ steps) (place : Place) :
    place <:+ steps.foldl Place.step place := by
  rw [Place.foldl_step h]
  exact List.suffix_append _ _

namespace FileTree

variable {t t' : FileTree} {place q : Place} {steps : List String}

theorem walk_cons (t : FileTree) (place : Place) (name : String) (rest : List String) (q : Place) :
    t.walk place (name :: rest) = .ok q ↔
      t.entryAt? place = some .directory ∧ name.utf8ByteSize ≤ Path.stepLimit ∧
        t.walk (place.step name) rest = .ok q := by
  cases h : t.entryAt? place with
  | none => simp [walk, h]
  | some e =>
    cases e with
    | file f => simp [walk, h]
    | directory =>
      by_cases hsize : Path.stepLimit < name.utf8ByteSize
      · simp [walk, h, hsize, Nat.not_le_of_lt hsize]
      · simp [walk, h, hsize, Nat.le_of_not_lt hsize]

theorem walk_append (t : FileTree) (place : Place) (steps more : List String) (q : Place) :
    t.walk place (steps ++ more) = .ok q ↔
      ∃ between, t.walk place steps = .ok between ∧ t.walk between more = .ok q := by
  induction steps generalizing place with
  | nil => simp [walk]
  | cons name rest ih =>
    simp only [List.cons_append, walk_cons, ih]
    constructor
    · rintro ⟨hdir, hsize, between, hrest, hmore⟩
      exact ⟨between, ⟨hdir, hsize, hrest⟩, hmore⟩
    · rintro ⟨between, ⟨hdir, hsize, hrest⟩, hmore⟩
      exact ⟨hdir, hsize, between, hrest, hmore⟩

theorem walk_dot (t : FileTree) (place q : Place) :
    t.walk place ["."] = .ok q ↔ t.entryAt? place = some .directory ∧ q = place := by
  have hsize : (".").utf8ByteSize ≤ Path.stepLimit := by decide
  rw [walk_cons, Place.step_dot]
  constructor
  · rintro ⟨hdir, -, hq⟩
    exact ⟨hdir, (Except.ok.inj hq).symm⟩
  · rintro ⟨hdir, rfl⟩
    exact ⟨hdir, hsize, rfl⟩

/-- Only whether steps can be followed depends on the tree. -/
theorem walk_eq (h : t.walk place steps = .ok q) : q = steps.foldl Place.step place := by
  induction steps generalizing place with
  | nil => exact (Except.ok.inj h).symm
  | cons name rest ih => exact ih ((walk_cons t place name rest q).mp h).2.2

theorem walk_mono (hdirs : ∀ q, t.entryAt? q = some .directory → t'.entryAt? q = some .directory)
    (h : t.walk place steps = .ok q) : t'.walk place steps = .ok q := by
  induction steps generalizing place with
  | nil => exact h
  | cons name rest ih =>
    obtain ⟨hdir, hsize, hrest⟩ := (walk_cons t place name rest q).mp h
    exact (walk_cons t' place name rest q).mpr ⟨hdirs place hdir, hsize, ih hrest⟩

/-! ## What is at a place -/

/-- The file at a place. -/
def fileAt? (t : FileTree) (place : Place) : Option File :=
  match t.entryAt? place with
  | some (.file f) => some f
  | some .directory | none => none

theorem fileAt?_eq_some {f : File} :
    t.fileAt? place = some f ↔ t.entryAt? place = some (.file f) := by
  unfold fileAt?
  split <;> simp_all

theorem fileAt?_congr (h : t'.entryAt? q = t.entryAt? q) : t'.fileAt? q = t.fileAt? q := by
  unfold fileAt?
  rw [h]

theorem entryAt?_isGiven (t : FileTree) (h : place.isGiven = true) :
    t.entryAt? place = some .directory := by
  simp [entryAt?, h]

/-- Everything is in a directory. -/
def Rooted (t : FileTree) : Prop :=
  ∀ name place, t.entryAt? (name :: place) ≠ none → t.entryAt? place = some .directory

theorem Rooted.entryAt?_of_append (h : t.Rooted) {names : List String} (hne : names ≠ [])
    (hthere : t.entryAt? (names ++ place) ≠ none) : t.entryAt? place = some .directory := by
  induction names with
  | nil => exact absurd rfl hne
  | cons name rest ih =>
    have hparent : t.entryAt? (rest ++ place) = some .directory := h name _ hthere
    by_cases hrest : rest = []
    · rwa [hrest, List.nil_append] at hparent
    · exact ih hrest (by simp [hparent])

theorem Rooted.entryAt?_of_suffix (h : t.Rooted) (hdir : t.entryAt? q = some .directory)
    (hsuffix : place <:+ q) : t.entryAt? place = some .directory := by
  obtain ⟨names, rfl⟩ := hsuffix
  by_cases hnames : names = []
  · rwa [hnames, List.nil_append] at hdir
  · exact h.entryAt?_of_append hnames (by simp [hdir])

/-- Steps that lead to something in one tree lead to it in every rooted tree that has it. -/
theorem Rooted.walk_of_entryAt? (h : t'.Rooted) (hplain : ".." ∉ steps)
    (hwalk : t.walk place steps = .ok q) (hthere : t.entryAt? q ≠ none)
    (hsame : t'.entryAt? q = t.entryAt? q) : t'.walk place steps = .ok q := by
  induction steps generalizing place with
  | nil => exact hwalk
  | cons name rest ih =>
    obtain ⟨hdir, hsize, hrest⟩ := (walk_cons t place name rest q).mp hwalk
    have hdir' : t'.entryAt? place = some .directory := by
      obtain ⟨names, hnames⟩ : place <:+ q := walk_eq hwalk ▸ Place.suffix_foldl_step hplain place
      -- Either the steps stay in `place`, which is a directory, or they go on from it.
      by_cases hstays : names = []
      · rw [hstays, List.nil_append] at hnames
        rw [hnames, hsame, ← hnames, hdir]
      · refine h.entryAt?_of_append hstays ?_
        rwa [hnames, hsame]
    exact (walk_cons t' place name rest q).mpr
      ⟨hdir', hsize, ih (fun hmem => hplain (List.mem_cons_of_mem _ hmem)) hrest⟩

/-! ## The content of a path -/

/-- The content of the file at a path, if there is one, whether it may be read or not. -/
def content? (t : FileTree) (path : String) : Option Bytes :=
  (t.file path).toOption.map File.content

theorem locate_eq_ok {p : Path} :
    t.locate p = .ok q ↔
      p.fault? = none ∧ q = p.place ∧
        t.walk (start p) (p.steps ++ if p.endsWithSlash then ["."] else []) = .ok q := by
  unfold locate
  cases p.fault? with
  | some fault => simp
  | none =>
    simp only [true_and]
    refine ⟨fun hwalk => ⟨?_, hwalk⟩, And.right⟩
    rw [walk_eq hwalk, List.foldl_append]
    split <;> rfl

theorem find_eq_ok {p : Path} {e : Entry} :
    t.find p = .ok e ↔
      p.fault? = none ∧
        t.walk (start p) (p.steps ++ if p.endsWithSlash then ["."] else []) = .ok p.place ∧
        t.entryAt? p.place = some e := by
  unfold find
  rw [bind_eq_ok]
  constructor
  · rintro ⟨q, hplace, hentry⟩
    obtain ⟨hfault, rfl, hwalk⟩ := locate_eq_ok.mp hplace
    refine ⟨hfault, hwalk, ?_⟩
    split at hentry
    · next there hthere => rw [hthere, Except.ok.inj hentry]
    · cases hentry
  · rintro ⟨hfault, hwalk, hentry⟩
    exact ⟨p.place, locate_eq_ok.mpr ⟨hfault, rfl, hwalk⟩, by rw [hentry]⟩

/-- A path that ends with a slash leads to no file. -/
theorem find_eq_file {p : Path} {f : File} :
    t.find p = .ok (.file f) ↔
      p.fault? = none ∧ p.endsWithSlash = false ∧ t.walk (start p) p.steps = .ok p.place ∧
        t.fileAt? p.place = some f := by
  rw [find_eq_ok, fileAt?_eq_some]
  cases p.endsWithSlash with
  | false => simp
  | true =>
    simp only [if_true, Bool.true_eq_false, false_and, and_false, iff_false]
    rintro ⟨-, hwalk, hentry⟩
    obtain ⟨between, -, hdot⟩ := (walk_append t _ _ _ _).mp hwalk
    obtain ⟨hdir, hsame⟩ := (walk_dot t between _).mp hdot
    rw [hsame, hdir] at hentry
    cases hentry

theorem file_eq_ok {path : String} {f : File} :
    t.file path = .ok f ↔ t.find (Path.ofString path) = .ok (.file f) := by
  unfold file look
  split <;> simp_all

theorem content?_eq_some {path : String} {content : Bytes} :
    t.content? path = some content ↔
      ∃ f, f.content = content ∧ t.find (Path.ofString path) = .ok (.file f) := by
  unfold content? file look
  split <;> simp_all [Except.toOption]

theorem read_eq_ok {path : String} {content : Bytes} :
    t.read path = .ok content ↔
      ∃ f, t.file path = .ok f ∧ f.isReadable = true ∧ f.content = content := by
  unfold read
  rw [bind_eq_ok]
  refine exists_congr fun f => and_congr_right fun _ => ?_
  cases f.isReadable <;> simp

theorem metadata_eq_ok {path : String} {seen : Metadata} :
    t.metadata path = .ok seen ↔
      (∃ f, t.look path = .ok (.file f) ∧ seen = f.metadata) ∨
        t.look path = .ok .directory ∧ seen = t.folders (Path.ofString path).place := by
  unfold metadata look find
  cases hplace : t.locate (Path.ofString path) with
  | error fault => simp [Bind.bind, Except.bind]
  | ok q =>
    obtain ⟨-, rfl, -⟩ := locate_eq_ok.mp hplace
    simp only [Bind.bind, Except.bind]
    rcases t.entryAt? (Path.ofString path).place with _ | ⟨f | _⟩ <;> simp [eq_comm (a := seen)]

theorem metadata_of_read {path : String} {content : Bytes} (h : t.read path = .ok content) :
    ∃ seen, t.metadata path = .ok seen := by
  obtain ⟨f, hfile, -⟩ := read_eq_ok.mp h
  exact ⟨f.metadata, metadata_eq_ok.mpr (.inl ⟨f, file_eq_ok.mp hfile, rfl⟩)⟩

theorem Rooted.find_of_fileAt? (h : t'.Rooted) {p : Path} (hplain : p.IsPlain)
    (hsame : t'.fileAt? p.place = t.fileAt? p.place) {f : File}
    (hfind : t.find p = .ok (.file f)) : t'.find p = .ok (.file f) := by
  obtain ⟨hfault, hslash, hwalk, hat⟩ := find_eq_file.mp hfind
  have hentry := fileAt?_eq_some.mp hat
  have hentry' := fileAt?_eq_some.mp (hsame.trans hat)
  have hwalk' := h.walk_of_entryAt? hplain hwalk (by simp [hentry]) (hentry'.trans hentry.symm)
  exact find_eq_file.mpr ⟨hfault, hslash, hwalk', hsame.trans hat⟩

theorem content?_of_fileAt?_eq (h : t'.Rooted) {path : String}
    (hplain : (Path.ofString path).IsPlain)
    (hfile : t'.fileAt? (Path.ofString path).place = t.fileAt? (Path.ofString path).place)
    {content : Bytes} (hcontent : t.content? path = some content) :
    t'.content? path = some content := by
  obtain ⟨f, hf, hfind⟩ := content?_eq_some.mp hcontent
  exact content?_eq_some.mpr ⟨f, hf, h.find_of_fileAt? hplain hfile hfind⟩

theorem content?_congr (h : t.Rooted) (h' : t'.Rooted) {path : String}
    (hplain : (Path.ofString path).IsPlain)
    (hfile : t'.fileAt? (Path.ofString path).place = t.fileAt? (Path.ofString path).place) :
    t'.content? path = t.content? path := by
  ext content
  exact ⟨content?_of_fileAt?_eq h hplain hfile.symm, content?_of_fileAt?_eq h' hplain hfile⟩

end FileTree

end TagRules
