import TagRules.Proofs.Geo.Refresh
import TagRules.Proofs.Surroundings.Around

/-
  When a download succeeds, and what it leaves alone.

  The tree has a say in a download only through what is at the two places of the target
  and through files on the way to them (`Target.Admits`); which directories are there
  already makes no difference.  Beside that, a download succeeds exactly if its URL gives a
  body that can be decoded (`download_eq_ok_iff`).  Whatever it does, it changes nothing but
  these places and the directories on the way (`download_around`).
-/

namespace TagRules.Geo

open Text FileTree

/-! ## What a download leaves alone -/

/-- The places at which a download leaves something else, by how it ends. -/
def Target.touched (target : Target) : Except Error Unit → List Place
  | .ok () => target.places
  | .error _ => [target.stagingPlace]

theorem Target.stagingPlace_mem_touched (target : Target) (result : Except Error Unit) :
    [target.stagingPlace] ⊆ target.touched result := by
  cases result <;> simp [touched, places]

theorem Target.touched_subset (target : Target) (result : Except Error Unit) :
    target.touched result ⊆ target.places := by
  cases result <;> simp [touched, places]

variable {target : Target} {files : FileTree} {kind : Option GeoKind} {body : Bytes}

theorem settle_around {f : File} (hstaged : files.HasFile (stagingPath target.path) f)
    (way : Place) :
    ChangesAround way (target.touched (settle files target.path kind).1) files
      (settle files target.path kind).2 := by
  unfold settle
  dsimp only
  split
  · rw [hstaged.remove_eq]
    exact erase_around hstaged.entryAt?_ne way
  · split
    · next moved hmove => exact hstaged.rename_around hmove way
    · exact .refl _ _ _

theorem install_around (way : Place) :
    ChangesAround way (target.touched (install files target.path kind body).1) files
      (install files target.path kind body).2 := by
  unfold install
  split
  · exact .refl _ _ _
  · next staged hwrite =>
    obtain ⟨-, hstaged⟩ := write_eq_ok hwrite
    have hwrites := (write_around hwrite way).mono List.suffix_rfl
      (target.stagingPlace_mem_touched (settle staged target.path kind).1)
    exact hwrites.trans (settle_around hstaged way)

theorem download_around (target : Target) (kind : Option GeoKind) (timeout : Nat)
    (s : Surroundings) (hplain : (Path.ofString target.path).IsPlain) :
    ChangesAround target.place.tail (target.touched (download target kind timeout s).1) s.files
      (download target kind timeout s).2.files := by
  have hparent := (makeParent_around s.files hplain).mono List.suffix_rfl
    (List.nil_subset (target.touched (download target kind timeout s).1))
  rcases download_cases target kind timeout s with
    ⟨fault, made, hmade, hrun⟩ | ⟨made, hmade, ⟨fault, -, hrun⟩ | ⟨body, -, hrun⟩⟩ <;>
    rw [hmade, hrun] at hparent <;> rw [hrun]
  · exact hparent
  · exact hparent
  · exact hparent.trans (install_around _)

/-! ## When a download succeeds -/

theorem settle_eq_ok_iff {f : File} (hs : files.Rooted)
    (hplain : (Path.ofString target.path).IsPlain)
    (hstaged : files.HasFile (stagingPath target.path) f) :
    (settle files target.path kind).1 = .ok () ↔
      Passes kind f ∧ (Path.ofString target.path).IsNamed ∧ files.IsOpen target.place := by
  have hverify : ∀ k, verify k files (stagingPath target.path) = .ok () ↔
      f.isReadable = true ∧ isDecodable k f.content = true :=
    fun k => verify_eq_ok_iff hstaged.file_eq
  unfold Target.place Passes
  rw [← hstaged.rename_isOk_iff hs hplain]
  unfold settle
  dsimp only
  cases kind with
  | none => cases files.rename (stagingPath target.path) target.path <;> simp
  | some k =>
    simp only [Option.some.injEq, forall_eq', ← hverify]
    cases verify k files (stagingPath target.path) with
    | error fault => simp
    | ok => cases files.rename (stagingPath target.path) target.path <;> simp

/-- What a download leaves at the staging place, before it is verified. -/
def Target.staged (target : Target) (files : FileTree) (body : Bytes) : File :=
  ⟨body, files.now, files.keepsReadable target.stagingPlace⟩

/-- Staging takes nothing away from where the file is to be put. -/
theorem install_eq_ok_iff (hs : files.Rooted) (hplain : (Path.ofString target.path).IsPlain) :
    (install files target.path kind body).1 = .ok () ↔
      ((Path.ofString (stagingPath target.path)).IsNamed ∧ files.IsOpen target.stagingPlace) ∧
        Passes kind (target.staged files body) ∧
          (Path.ofString target.path).IsNamed ∧ files.IsOpen target.place := by
  have hstaged := hs.write_isOk_iff (staging_isPlain hplain) body
  unfold Target.stagingPlace
  rw [← hstaged]
  unfold install
  cases hwrite : files.write (stagingPath target.path) body with
  | error fault => simp
  | ok staged =>
    obtain ⟨hchanges, hfile, hnow⟩ := writeAt_eq_ok hwrite
    have hopen : staged.IsOpen target.place ↔ files.IsOpen target.place :=
      write_isOpen_iff hwrite (place_staging_ne hplain)
    dsimp only
    rw [settle_eq_ok_iff (hchanges.rooted hs) hplain hfile, hopen]
    simp [Target.staged, Target.stagingPlace]

/-- Whether a tree lets a download of a target come to its place: the texts of its paths are in
order, no file is on the way, and no directory has either of the two names. -/
structure Target.Admits (target : Target) (files : FileTree) : Prop where
  makeable : IsParentMakeable (Path.ofString target.path)
  named : (Path.ofString target.path).IsNamed
  staged : (Path.ofString (stagingPath target.path)).IsNamed
  beside : target.stagingPlace.tail = target.place.tail
  clear : ∀ q, q <:+ target.place.tail → files.fileAt? q = none
  place_ne : files.entryAt? target.place ≠ some .directory
  staging_ne : files.entryAt? target.stagingPlace ≠ some .directory

/-- A body is staged beside the file, or in what is at the place of the file. -/
theorem Target.tail_stagingPlace (target : Target) :
    target.stagingPlace.tail = target.place ∨
      ((Path.ofString target.path).IsNamed → target.stagingPlace.tail = target.place.tail) := by
  obtain ⟨outer, last, hpath, hstaging⟩ := place_staging target.path
  unfold stagingPlace place
  rw [hstaging, List.tail_cons]
  by_cases hlast : last = []
  · left
    rw [Path.place, hpath, if_pos hlast, List.append_nil]
  · right
    intro hnamed
    obtain ⟨inner, name, hsteps, hdot, hback⟩ := hnamed.last
    rw [if_neg hlast] at hpath
    obtain ⟨rfl, -⟩ := List.append_inj' (hpath.symm.trans hsteps) rfl
    rw [Path.place_eq_cons hsteps hdot hback, List.tail_cons]

theorem not_suffix_tail {place : Place} (h : place ≠ []) : ¬place <:+ place.tail := by
  intro hsuffix
  have hlength := hsuffix.length_le
  have hpos := List.length_pos_iff.mpr h
  rw [List.length_tail] at hlength
  omega

/-- A tree that admits a download is one in which the directory can be made, so that both places
are open afterwards. -/
theorem Target.admits_iff (hs : files.Rooted) (hplain : (Path.ofString target.path).IsPlain) :
    target.Admits files ↔
      ∃ made, files.makeParent target.path = (.ok (), made) ∧
        ((Path.ofString (stagingPath target.path)).IsNamed ∧ made.IsOpen target.stagingPlace) ∧
          (Path.ofString target.path).IsNamed ∧ made.IsOpen target.place := by
  have haround := makeParent_around files hplain
  constructor
  · rintro ⟨hmakeable, hnamed, hstaged, hbeside, hclear, hplace, hstaging⟩
    have hok := (makeParent_eq_ok_iff hs hplain hnamed).mpr ⟨hmakeable, hclear⟩
    have hmade : files.makeParent target.path = (.ok (), (files.makeParent target.path).2) :=
      Prod.ext hok rfl
    have hdir := makeParent_directory hplain hnamed hmade
    -- Neither place is on the way to the directory that was made.
    have hsame : ∀ q, q ≠ [] → q.tail = target.place.tail →
        (files.makeParent target.path).2.entryAt? q = files.entryAt? q :=
      fun q hq htail => haround.entryAt?_eq q List.not_mem_nil (htail ▸ not_suffix_tail hq)
    refine ⟨_, hmade, ⟨hstaged, ?_⟩, hnamed, ?_⟩
    · refine isOpen_of_named hstaged (hbeside.symm ▸ hdir) ?_
      rwa [hsame _ hstaged.place_ne_nil hbeside]
    · refine isOpen_of_named hnamed hdir ?_
      rwa [hsame _ hnamed.place_ne_nil rfl]
  · rintro ⟨made, hmade, ⟨hstaged, hstaging⟩, hnamed, hplace⟩
    obtain ⟨hmakeable, hclear⟩ := (makeParent_eq_ok_iff hs hplain hnamed).mp (by rw [hmade])
    rw [hmade] at haround
    refine ⟨hmakeable, hnamed, hstaged, ?_, hclear, ?_, ?_⟩
    · refine target.tail_stagingPlace.elim (fun hwithin => ?_) fun hbeside => hbeside hnamed
      have hdir := hstaging.entryAt?_tail
      rw [hwithin] at hdir
      exact absurd hdir hplace.entryAt?_ne
    · exact fun hdir => hplace.entryAt?_ne (haround.directory _ hdir)
    · exact fun hdir => hstaging.entryAt?_ne (haround.directory _ hdir)

theorem keepsReadable_eq (t : FileTree) (place : Place) :
    t.keepsReadable place = ((t.fileAt? place).map File.isReadable).getD true := by
  unfold keepsReadable fileAt?
  rcases t.entryAt? place with _ | ⟨f⟩ | _ <;> rfl

theorem download_eq_ok_iff {timeout : Nat} {s : Surroundings} (hs : s.files.Rooted)
    (hplain : (Path.ofString target.path).IsPlain) :
    (download target kind timeout s).1 = .ok () ↔
      target.Admits s.files ∧ ∃ body, s.remote.answer target.url = .ok body ∧
        Passes kind (target.staged s.files body) := by
  rw [Target.admits_iff hs hplain]
  have hchanges := makeParent_changes s.files target.path
  have haround := makeParent_around s.files hplain
  rcases download_cases target kind timeout s with
    ⟨fault, made, hmade, hrun⟩ | ⟨made, hmade, ⟨fault, hanswer, hrun⟩ | ⟨body, hanswer, hrun⟩⟩ <;>
    rw [hrun, hmade]
  · simp
  · simp [hanswer]
  · rw [hmade] at hchanges haround
    -- Making the directory makes no difference to what is staged.
    have hstaged : target.staged made body = target.staged s.files body := by
      unfold Target.staged
      rw [haround.now_eq, keepsReadable_eq, keepsReadable_eq,
        hchanges.fileAt?_eq _ List.not_mem_nil]
    rw [install_eq_ok_iff (hchanges.rooted hs) hplain, hanswer, hstaged]
    constructor
    · rintro ⟨hstaging, hpasses, hplace⟩
      exact ⟨⟨made, rfl, hstaging, hplace⟩, body, rfl, hpasses⟩
    · rintro ⟨⟨_, hsame, hstaging, hplace⟩, _, hbody, hpasses⟩
      obtain ⟨-, rfl⟩ := Prod.mk.inj hsame
      obtain rfl := Except.ok.inj hbody
      exact ⟨hstaging, hpasses, hplace⟩

end TagRules.Geo
