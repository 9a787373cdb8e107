import TagRules.Geo.Refresh
import TagRules.Proofs.Surroundings.Changes
import TagRules.Proofs.Surroundings.Requests
import TagRules.Proofs.Text.Blank

/-
  A geographic file never becomes worse.

  A download touches two places, that of its file and that of the staged body, and these
  are different (`place_staging_ne`).  Up to the verification nothing but the second
  changes; a body that is refused is removed from there, and one that is accepted is moved
  to the first.  So a download that fails leaves the content of its path as it was
  (`download_eq_error`), and one that does not leaves a body that was fetched and can be
  decoded (`download_eq_ok`).  `NoWorse` says that one or the other holds.  A refresh
  downloads up to two files, each of which is at none of the places that the other touches
  (`IsSeparate`), so that what is said of a download carries over.
-/

namespace TagRules.Geo

open Text FileTree

namespace Target

def place (target : Target) : Place := (Path.ofString target.path).place

/-- The place where a download is kept until it is verified. -/
def stagingPlace (target : Target) : Place := (Path.ofString (stagingPath target.path)).place

def places (target : Target) : List Place := [target.stagingPlace, target.place]

end Target

/-! ## The staged body is elsewhere -/

theorem steps_staging (path : String) :
    ∃ (outer : List String) (last : List Char),
      (Path.ofString path).steps = outer ++ (if last = [] then [] else [String.ofList last]) ∧
      (Path.ofString (stagingPath path)).steps =
        outer ++ [String.ofList (last ++ ".tmp".toList)] := by
  have hpart : '/' ∉ ".tmp".toList := by decide
  obtain ⟨parts, last, hpath, hstaging⟩ := splitAll_append_part hpart path.toList
  refine ⟨(parts.filter fun step => !step.isEmpty).map String.ofList, last, ?_, ?_⟩
  · rw [Path.ofString, hpath]
    by_cases hlast : last = [] <;> simp [hlast]
  · rw [stagingPath, Path.ofString, String.toList_append, hstaging]
    simp

theorem start_staging (path : String) :
    start (Path.ofString (stagingPath path)) = start (Path.ofString path) := by
  have habsolute : (Path.ofString (stagingPath path)).isAbsolute =
      (Path.ofString path).isAbsolute := by
    unfold Path.ofString stagingPath
    rw [String.toList_append]
    cases path.toList <;> rfl
  rw [start, start, habsolute]

/-- A staged name is longer than the name it is made from, and than a step that is no name. -/
theorem staged_ne {last : List Char} {name : String} (h : name.toList.length ≤ last.length + 3) :
    String.ofList (last ++ ".tmp".toList) ≠ name := by
  rintro rfl
  rw [String.toList_ofList, List.length_append] at h
  have hlength : ".tmp".toList.length = 4 := rfl
  omega

theorem place_staging (path : String) :
    ∃ (outer : List String) (last : List Char),
      (Path.ofString path).steps = outer ++ (if last = [] then [] else [String.ofList last]) ∧
      (Path.ofString (stagingPath path)).place =
        String.ofList (last ++ ".tmp".toList) ::
          outer.foldl Place.step (start (Path.ofString path)) := by
  obtain ⟨outer, last, hpath, hstaging⟩ := steps_staging path
  have hdot : String.ofList (last ++ ".tmp".toList) ≠ "." := staged_ne (Nat.le_add_left _ _)
  have hback : String.ofList (last ++ ".tmp".toList) ≠ ".." := staged_ne (Nat.le_add_left _ _)
  refine ⟨outer, last, hpath, ?_⟩
  rw [Path.place, start_staging, hstaging, List.foldl_append, List.foldl_cons, List.foldl_nil,
    Place.step_name hdot hback]

theorem place_staging_ne {path : String} (hplain : (Path.ofString path).IsPlain) :
    (Path.ofString path).place ≠ (Path.ofString (stagingPath path)).place := by
  obtain ⟨outer, last, hpath, hstaging⟩ := place_staging path
  unfold Path.IsPlain at hplain
  rw [hstaging, Path.place]
  rw [hpath] at hplain ⊢
  -- The path stays in the directory of the staged body, or goes on by a shorter name.
  by_cases hlast : last = []
  · simp [hlast]
  · by_cases hstays : String.ofList last = "."
    · simp [hlast, hstays, Place.step_dot]
    · have hname : String.ofList last ≠ ".." := by
        rintro hgoes
        simp [hlast, hgoes] at hplain
      have hlonger : String.ofList (last ++ ".tmp".toList) ≠ String.ofList last :=
        staged_ne (by rw [String.toList_ofList]; exact Nat.le_add_right _ _)
      rw [if_neg hlast, List.foldl_append, List.foldl_cons, List.foldl_nil,
        Place.step_name hstays hname]
      intro hsame
      exact hlonger (List.cons.inj hsame).1.symm

theorem staging_isPlain {path : String} (hplain : (Path.ofString path).IsPlain) :
    (Path.ofString (stagingPath path)).IsPlain := by
  obtain ⟨outer, last, hpath, hstaging⟩ := steps_staging path
  have hback : String.ofList (last ++ ".tmp".toList) ≠ ".." := staged_ne (Nat.le_add_left _ _)
  unfold Path.IsPlain at hplain ⊢
  rw [hpath, List.mem_append, not_or] at hplain
  rw [hstaging, List.mem_append, not_or]
  exact ⟨hplain.1, fun hmem => hback (List.mem_singleton.mp hmem).symm⟩

theorem Target.place_ne {target : Target} (hplain : (Path.ofString target.path).IsPlain) :
    target.place ∉ [target.stagingPlace] := by
  rw [List.mem_singleton]
  exact place_staging_ne hplain

/-! ## A download -/

/-- Whether a file passes for a collection: it may be read and its content can be decoded.  Without
a collection any file does. -/
def Passes (kind : Option GeoKind) (f : File) : Prop :=
  ∀ k, kind = some k → f.isReadable = true ∧ isDecodable k f.content = true

theorem verify_eq_ok_iff {kind : GeoKind} {files : FileTree} {path : String} {f : File}
    (hfile : files.file path = .ok f) :
    verify kind files path = .ok () ↔ f.isReadable = true ∧ isDecodable kind f.content = true := by
  have hread : files.read path = if f.isReadable then .ok f.content else .error .denied := by
    unfold FileTree.read
    rw [hfile]
    rfl
  unfold verify decodeFile
  rw [hread]
  cases f.isReadable
  · simp
  · cases hdecodable : isDecodable kind f.content <;> simp [hdecodable]

/-- If a body was refused, nothing is staged any more. -/
def ClearedAfter (e : Error) (target : Target) (files : FileTree) : Prop :=
  ∀ fault, e = .catalog (.verification fault) →
    files.isPresent (stagingPath target.path) = false

theorem clearedAfter_file (fault : FileFault) (target : Target) (files : FileTree) :
    ClearedAfter (.file fault) target files := by
  intro refused he
  cases he

theorem clearedAfter_fetch (fault : FetchFault) (target : Target) (files : FileTree) :
    ClearedAfter (.catalog (.download target.url fault)) target files := by
  intro refused he
  cases he

theorem settle_eq_error {files files' : FileTree} {target : Target} {kind : Option GeoKind}
    {f : File} {e : Error} (hstaged : files.HasFile (stagingPath target.path) f)
    (h : settle files target.path kind = (.error e, files')) :
    ChangesAt [target.stagingPlace] files files' ∧ ClearedAfter e target files' := by
  unfold settle at h
  dsimp only at h
  split at h
  · next fault hverify =>
    obtain ⟨left, hremove, hchanges, hgone⟩ := hstaged.remove_eq_ok
    rw [hremove] at h
    obtain ⟨-, rfl⟩ := Prod.mk.inj h
    exact ⟨hchanges, fun _ _ => hgone⟩
  · split at h
    · cases h
    · obtain ⟨he, rfl⟩ := Prod.mk.inj h
      obtain rfl := Except.error.inj he
      exact ⟨.refl _ _, clearedAfter_file _ target files⟩

theorem settle_eq_ok {files files' : FileTree} {target : Target} {kind : Option GeoKind}
    {f : File} (hstaged : files.HasFile (stagingPath target.path) f)
    (h : settle files target.path kind = (.ok (), files')) :
    ChangesAt target.places files files' ∧ files'.HasFile target.path f ∧
      files'.now = files.now ∧ Passes kind f := by
  unfold settle at h
  dsimp only at h
  split at h
  · cases h
  · next hverify =>
    split at h
    · next moved hmove =>
      obtain ⟨-, rfl⟩ := Prod.mk.inj h
      obtain ⟨hchanges, hmoved, hnow⟩ := rename_eq_ok hstaged hmove
      refine ⟨hchanges, hmoved, hnow, fun k hk => ?_⟩
      rw [hk] at hverify
      exact (verify_eq_ok_iff hstaged.file_eq).mp hverify
    · cases h

theorem install_eq_error {files files' : FileTree} {target : Target} {kind : Option GeoKind}
    {body : Bytes} {e : Error} (h : install files target.path kind body = (.error e, files')) :
    ChangesAt [target.stagingPlace] files files' ∧ ClearedAfter e target files' := by
  unfold install at h
  split at h
  · obtain ⟨he, rfl⟩ := Prod.mk.inj h
    obtain rfl := Except.error.inj he
    exact ⟨.refl _ _, clearedAfter_file _ target files⟩
  · next staged hwrite =>
    obtain ⟨hchanges, hstaged⟩ := write_eq_ok hwrite
    obtain ⟨hsettles, hgone⟩ := settle_eq_error hstaged h
    exact ⟨hchanges.trans hsettles, hgone⟩

theorem install_eq_ok {files files' : FileTree} {target : Target} {kind : Option GeoKind}
    {body : Bytes} (h : install files target.path kind body = (.ok (), files')) :
    ChangesAt target.places files files' ∧
      ∃ isReadable, files'.HasFile target.path ⟨body, files'.now, isReadable⟩ ∧
        Passes kind ⟨body, files'.now, isReadable⟩ := by
  unfold install at h
  split at h
  · cases h
  · next staged hwrite =>
    obtain ⟨hchanges, hstaged⟩ := write_eq_ok hwrite
    obtain ⟨hsettles, hfile, hnow, hpasses⟩ := settle_eq_ok hstaged h
    rw [← hnow] at hfile hpasses
    exact ⟨(hchanges.mono (by simp [Target.places, Target.stagingPlace])).trans hsettles, _,
      hfile, hpasses⟩

/-- How a download goes: the directory of the file cannot be made, the URL gives nothing, or what it
gives is put in place. -/
theorem download_cases (target : Target) (kind : Option GeoKind) (timeout : Nat)
    (s : Surroundings) :
    (∃ fault made, s.files.makeParent target.path = (.error fault, made) ∧
        download target kind timeout s = (.error (.file fault), { s with files := made })) ∨
      ∃ made, s.files.makeParent target.path = (.ok (), made) ∧
        ((∃ fault, s.remote.answer target.url = .error fault ∧
            download target kind timeout s =
              (.error (.catalog (.download target.url fault)),
                ⟨made, s.remote.count target.url timeout⟩)) ∨
          ∃ body, s.remote.answer target.url = .ok body ∧
            download target kind timeout s =
              ((install made target.path kind body).1,
                ⟨(install made target.path kind body).2, s.remote.count target.url timeout⟩)) := by
  unfold download Surroundings.fetch
  dsimp only
  rcases s.files.makeParent target.path with ⟨fault | _, made⟩
  · exact .inl ⟨fault, made, rfl, rfl⟩
  · refine .inr ⟨made, rfl, ?_⟩
    cases hanswer : s.remote.answer target.url with
    | error fault => exact .inl ⟨fault, rfl, rfl⟩
    | ok body => exact .inr ⟨body, rfl, rfl⟩

theorem download_remote (target : Target) (kind : Option GeoKind) (timeout : Nat)
    (s : Surroundings) :
    (download target kind timeout s).2.remote = s.remote ∨
      (download target kind timeout s).2.remote = s.remote.count target.url timeout := by
  rcases download_cases target kind timeout s with
    ⟨fault, made, -, hrun⟩ | ⟨made, -, ⟨fault, -, hrun⟩ | ⟨body, -, hrun⟩⟩
  · exact .inl (by rw [hrun])
  · exact .inr (by rw [hrun])
  · exact .inr (by rw [hrun])

theorem download_later (target : Target) (kind : Option GeoKind) (timeout : Nat)
    (s : Surroundings) : s.remote.Later (download target kind timeout s).2.remote := by
  rcases download_remote target kind timeout s with hnone | hone
  · rw [hnone]
    exact .refl _
  · rw [hone]
    exact .count _ _ _

variable {target : Target} {kind : Option GeoKind} {timeout : Nat} {s s' : Surroundings}

/-- A download that fails changes nothing but what is staged, and leaves nothing there that was
refused. -/
theorem download_eq_error {e : Error} (h : download target kind timeout s = (.error e, s')) :
    ChangesAt [target.stagingPlace] s.files s'.files ∧ ClearedAfter e target s'.files := by
  have hparent := (makeParent_changes s.files target.path).mono
    (List.nil_subset [target.stagingPlace])
  rcases download_cases target kind timeout s with
    ⟨fault, made, hmade, hrun⟩ | ⟨made, hmade, ⟨fault, -, hrun⟩ | ⟨body, -, hrun⟩⟩ <;>
    rw [hmade] at hparent <;> obtain ⟨he, rfl⟩ := Prod.mk.inj (h.symm.trans hrun)
  · obtain rfl := Except.error.inj he
    exact ⟨hparent, clearedAfter_file fault target made⟩
  · obtain rfl := Except.error.inj he
    exact ⟨hparent, clearedAfter_fetch fault target made⟩
  · obtain ⟨hinstall, hgone⟩ := install_eq_error (Prod.ext he.symm rfl)
    exact ⟨hparent.trans hinstall, hgone⟩

/-- A download that does not fail puts a body that was fetched at the path, as a new file that
passes. -/
theorem download_eq_ok (h : download target kind timeout s = (.ok (), s')) :
    ChangesAt target.places s.files s'.files ∧
      s'.remote = s.remote.count target.url timeout ∧
      ∃ body isReadable, s.remote.answer target.url = .ok body ∧
        s'.files.HasFile target.path ⟨body, s'.files.now, isReadable⟩ ∧
        Passes kind ⟨body, s'.files.now, isReadable⟩ := by
  have hparent := (makeParent_changes s.files target.path).mono (List.nil_subset target.places)
  rcases download_cases target kind timeout s with
    ⟨fault, made, hmade, hrun⟩ | ⟨made, hmade, ⟨fault, -, hrun⟩ | ⟨body, hanswer, hrun⟩⟩ <;>
    rw [hmade] at hparent <;> obtain ⟨hok, rfl⟩ := Prod.mk.inj (h.symm.trans hrun)
  · cases hok
  · cases hok
  · obtain ⟨hinstall, isReadable, hfile, hpasses⟩ := install_eq_ok (Prod.ext hok.symm rfl)
    exact ⟨hparent.trans hinstall, rfl, body, isReadable, hanswer, hfile, hpasses⟩

/-- What is at the path of a target is what was there, or a body that its URL gave in between and
that can be decoded. -/
def NoWorse (kind : GeoKind) (target : Target) (s s' : Surroundings) : Prop :=
  s'.files.content? target.path = s.files.content? target.path ∨
    ∃ body, s.remote.Gave s'.remote target.url body ∧ isDecodable kind body = true ∧
      s'.files.content? target.path = some body

theorem download_changes (target : Target) (kind : Option GeoKind) (timeout : Nat)
    (s : Surroundings) :
    ChangesAt target.places s.files (download target kind timeout s).2.files := by
  rcases h : download target kind timeout s with ⟨_ | _, s'⟩
  · exact (download_eq_error h).1.mono (by simp [Target.places])
  · exact (download_eq_ok h).1

theorem download_error_content? {e : Error} (hs : s.files.Rooted)
    (hplain : (Path.ofString target.path).IsPlain)
    (h : download target kind timeout s = (.error e, s')) :
    s'.files.content? target.path = s.files.content? target.path :=
  (download_eq_error h).1.content?_eq hs hplain (Target.place_ne hplain)

theorem download_noWorse (kind : GeoKind) (timeout : Nat) (hs : s.files.Rooted)
    (hplain : (Path.ofString target.path).IsPlain) :
    NoWorse kind target s (download target (some kind) timeout s).2 := by
  rcases h : download target (some kind) timeout s with ⟨_ | _, s'⟩
  · exact .inl (download_error_content? hs hplain h)
  · obtain ⟨-, hremote, body, isReadable, hanswer, hfile, hpasses⟩ := download_eq_ok h
    have hgave := Remote.gave_count hanswer timeout
    rw [← hremote] at hgave
    exact .inr ⟨body, hgave, (hpasses kind rfl).2, hfile.content?_eq⟩

/-! ## The turn of one file -/

/-- In its turn a file is downloaded or left alone. -/
def Turn (kind : GeoKind) (target : Option Target) (s s' : Surroundings) : Prop :=
  s' = s ∨ ∃ t timeout, target = some t ∧ s' = (download t (some kind) timeout s).2

namespace Turn

variable {kind : GeoKind} {target : Option Target} {s s' : Surroundings}

theorem rooted (h : Turn kind target s s') (hs : s.files.Rooted) : s'.files.Rooted := by
  rcases h with rfl | ⟨t, timeout, -, rfl⟩
  · exact hs
  · exact (download_changes t _ timeout s).rooted hs

theorem later (h : Turn kind target s s') : s.remote.Later s'.remote := by
  rcases h with rfl | ⟨t, timeout, -, rfl⟩
  · exact .refl _
  · exact download_later t _ timeout s

theorem content?_eq (h : Turn kind target s s') (hs : s.files.Rooted) {path : String}
    (hplain : (Path.ofString path).IsPlain)
    (hplace : ∀ t, target = some t → (Path.ofString path).place ∉ t.places) :
    s'.files.content? path = s.files.content? path := by
  rcases h with rfl | ⟨t, timeout, rfl, rfl⟩
  · rfl
  · exact (download_changes t _ timeout s).content?_eq hs hplain (hplace t rfl)

theorem noWorse {t : Target} (h : Turn kind (some t) s s') (hs : s.files.Rooted)
    (hplain : (Path.ofString t.path).IsPlain) : NoWorse kind t s s' := by
  rcases h with rfl | ⟨t', timeout, heq, rfl⟩
  · exact .inl rfl
  · obtain rfl := Option.some.inj heq
    exact download_noWorse kind timeout hs hplain

end Turn

namespace Refresher

theorem refreshTarget_snd (r : Refresher) (force : Bool) (kind : GeoKind) (target : Target)
    (timeout : Nat) (s : Surroundings) :
    (r.refreshTarget force kind (some target) timeout s).2 =
      if force || r.needsDownload s.files target.path then
        (download target (some kind) timeout s).2
      else s := by
  unfold refreshTarget
  dsimp only
  split
  · rcases download target (some kind) timeout s with ⟨_ | _, s'⟩
    · dsimp only
      split <;> rfl
    · rfl
  · rfl

theorem refreshTarget_turn (r : Refresher) (force : Bool) (kind : GeoKind) (target : Option Target)
    (timeout : Nat) (s : Surroundings) :
    Turn kind target s (r.refreshTarget force kind target timeout s).2 := by
  cases target with
  | none => exact .inl rfl
  | some t =>
    rw [refreshTarget_snd]
    split
    · exact .inr ⟨t, timeout, rfl, rfl⟩
    · exact .inl rfl

theorem refresh_of_error {r : Refresher} {force : Bool} {e : Error}
    (h : (r.refreshTarget force .ip r.ip timeout s).1 = .error e) :
    r.refresh force timeout s = (.error e, (r.refreshTarget force .ip r.ip timeout s).2) := by
  unfold refresh
  rcases hturn : r.refreshTarget force .ip r.ip timeout s with ⟨e' | first, s'⟩
  · rw [hturn] at h
    rw [Except.error.inj h]
  · rw [hturn] at h
    cases h

theorem refresh_of_ok {r : Refresher} {force first : Bool}
    (h : (r.refreshTarget force .ip r.ip timeout s).1 = .ok first) :
    (r.refresh force timeout s).2 =
      (r.refreshTarget force .site r.site timeout
        (r.refreshTarget force .ip r.ip timeout s).2).2 := by
  unfold refresh
  rcases hturn : r.refreshTarget force .ip r.ip timeout s with ⟨e | first', s'⟩
  · rw [hturn] at h
    cases h
  · dsimp only
    rcases r.refreshTarget force .site r.site timeout s' with ⟨e | second, s''⟩ <;> rfl

/-- A refresh is the turn of the one file and then that of the other. -/
theorem refresh_turns (r : Refresher) (force : Bool) (timeout : Nat) (s : Surroundings) :
    ∃ between, Turn .ip r.ip s between ∧
      Turn .site r.site between (r.refresh force timeout s).2 := by
  refine ⟨_, r.refreshTarget_turn force .ip r.ip timeout s, ?_⟩
  cases hresult : (r.refreshTarget force .ip r.ip timeout s).1 with
  | error e =>
    rw [refresh_of_error hresult]
    exact .inl rfl
  | ok first =>
    rw [refresh_of_ok hresult]
    exact r.refreshTarget_turn force .site r.site timeout _

/-- The file of a collection that is kept fresh. -/
def target? (r : Refresher) : GeoKind → Option Target
  | .ip => r.ip
  | .site => r.site

/-- The paths do not go back, and neither file is at a place that the other target touches. -/
structure IsSeparate (r : Refresher) : Prop where
  plain : ∀ kind target, r.target? kind = some target → (Path.ofString target.path).IsPlain
  apart : ∀ ip site, r.ip = some ip → r.site = some site →
    ip.place ∉ site.places ∧ site.place ∉ ip.places

theorem refresh_rooted (r : Refresher) (force : Bool) (timeout : Nat) {s : Surroundings}
    (hs : s.files.Rooted) : (r.refresh force timeout s).2.files.Rooted := by
  obtain ⟨between, hfirst, hsecond⟩ := r.refresh_turns force timeout s
  exact hsecond.rooted (hfirst.rooted hs)

/-- No file is worse after a refresh: its own turn does it no harm, and the other turn does not
touch it. -/
theorem refresh_noWorse {r : Refresher} (hr : r.IsSeparate) (force : Bool) (timeout : Nat)
    {s : Surroundings} (hs : s.files.Rooted) {kind : GeoKind} {target : Target}
    (htarget : r.target? kind = some target) :
    NoWorse kind target s (r.refresh force timeout s).2 := by
  obtain ⟨between, hfirst, hsecond⟩ := r.refresh_turns force timeout s
  have hplain := hr.plain kind target htarget
  cases kind with
  | ip =>
    have hip : r.ip = some target := htarget
    rw [hip] at hfirst
    -- The turn of the other file comes after this one and does not touch what it left.
    have hkept := hsecond.content?_eq (hfirst.rooted hs) hplain
      fun site hsite => (hr.apart target site hip hsite).1
    have hfirst := hfirst.noWorse hs hplain
    unfold NoWorse at hfirst ⊢
    rw [hkept]
    refine hfirst.imp_right ?_
    rintro ⟨body, hgave, hbody⟩
    exact ⟨body, hgave.later hsecond.later, hbody⟩
  | site =>
    have hsite : r.site = some target := htarget
    rw [hsite] at hsecond
    -- The turn of the other file came first and did not touch this one.
    have hkept := hfirst.content?_eq hs hplain
      fun ip hip => (hr.apart ip target hip hsite).2
    have hsecond := hsecond.noWorse (hfirst.rooted hs) hplain
    unfold NoWorse at hsecond ⊢
    rw [hkept] at hsecond
    refine hsecond.imp_right ?_
    rintro ⟨body, hgave, hbody⟩
    exact ⟨body, hfirst.later.gave hgave, hbody⟩

/-! ## Runs -/

/-- What happens: files and bodies change, or the files are refreshed. -/
inductive Step where
  | outside (s : Surroundings) (hs : s.files.Rooted)
  | refresh (force : Bool) (timeout : Nat)

/-- What was around before and after each refresh. -/
def calls (r : Refresher) (s : Surroundings) : List Step → List (Surroundings × Surroundings)
  | [] => []
  | .outside s _ :: rest => r.calls s rest
  | .refresh force timeout :: rest =>
    let s' := (r.refresh force timeout s).2
    (s, s') :: r.calls s' rest

/-- However files and bodies change between refreshes, after each of them there is at the path of
either file what was there before, or a body that its URL gave and that can be decoded.  A
download that fails leaves what is at its path as it was, and what is refused is not left beside
it. -/
theorem calls_noWorse {r : Refresher} (hr : r.IsSeparate) {s : Surroundings} (hs : s.files.Rooted)
    (steps : List Step) :
    (∀ call ∈ r.calls s steps, ∀ kind target, r.target? kind = some target →
      NoWorse kind target call.1 call.2) ∧
    ∀ (s : Surroundings) (target : Target) (kind : Option GeoKind) (timeout : Nat) (e : Error)
      (s' : Surroundings), s.files.Rooted → (Path.ofString target.path).IsPlain →
      download target kind timeout s = (.error e, s') →
        s'.files.content? target.path = s.files.content? target.path ∧
          ∀ fault, e = .catalog (.verification fault) →
            s'.files.isPresent (stagingPath target.path) = false := by
  constructor
  · induction steps generalizing s with
    | nil => simp [calls]
    | cons step rest ih =>
      cases step with
      | outside s hs => exact ih hs
      | refresh force timeout =>
        intro call hcall kind target htarget
        rcases List.mem_cons.mp hcall with rfl | hlater
        · exact refresh_noWorse hr force timeout hs htarget
        · exact ih (r.refresh_rooted force timeout hs) call hlater kind target htarget
  · intro s target kind timeout e s' hs hplain h
    exact ⟨download_error_content? hs hplain h, (download_eq_error h).2⟩

def errorOf : Except Error Unit → Option Error
  | .error e => some e
  | .ok () => none

/-- A file is kept when something that cannot be decoded is downloaded for it. -/
theorem calls_noWorse_refused :
    let ip : Target := ⟨"ip.dat", "http://geo/ip"⟩
    let r : Refresher := ⟨some ip, some ⟨"site.dat", "http://geo/site"⟩, standardInterval⟩
    let s : Surroundings :=
      ⟨(FileTree.empty 0).put ["ip.dat"] (.file ⟨[0x0A, 0x00], 0, true⟩),
        (Remote.empty true).setBody "http://geo/ip" [0xFF]⟩
    r.IsSeparate ∧ s.files.Rooted ∧
      (r.refresh true 30 s).2.files.content? "ip.dat" = some [0x0A, 0x00] ∧
      (download ip (some .ip) 30 s).2.files.isPresent (stagingPath "ip.dat") = false := by
  intro ip r s
  have hr : r.IsSeparate := by
    constructor
    · rintro (_ | _) target htarget
      · obtain rfl := Option.some.inj htarget
        decide +kernel
      · obtain rfl := Option.some.inj htarget
        decide +kernel
    · rintro ip site hip hsite
      obtain rfl := Option.some.inj hip
      obtain rfl := Option.some.inj hsite
      decide +kernel
  have hs : s.files.Rooted := by
    refine IsOpen.put_rooted ⟨?_, "ip.dat", [], rfl, rfl⟩ _ (empty_rooted 0)
    decide +kernel
  obtain ⟨hcalls, hdownloads⟩ := calls_noWorse hr hs [.refresh true 30]
  refine ⟨hr, hs, ?_, ?_⟩
  · -- The only body that the URL gives cannot be decoded, so the file is the one before.
    have hbefore : s.files.content? "ip.dat" = some [0x0A, 0x00] := by decide +kernel
    have hgarbage : isDecodable .ip [0xFF] = false := by decide +kernel
    rcases hcalls (s, (r.refresh true 30 s).2) (List.mem_cons_self ..) .ip ip rfl with
      hkept | ⟨body, ⟨-, n, -, -, hbody⟩, hdecodable, -⟩
    · exact hkept.trans hbefore
    · obtain rfl : [0xFF] = body := Option.some.inj hbody
      rw [hgarbage] at hdecodable
      cases hdecodable
  · have hfault : errorOf (download ip (some .ip) 30 s).1 =
        some (.catalog (.verification (.undecodable .ip))) := by
      decide +kernel
    rcases h : download ip (some .ip) 30 s with ⟨e | _, s'⟩
    · rw [h] at hfault
      have hplain : (Path.ofString ip.path).IsPlain := hr.plain .ip ip rfl
      exact (hdownloads s ip (some .ip) 30 e s' hs hplain h).2 _ (Option.some.inj hfault)
    · rw [h] at hfault
      cases hfault

end Refresher

end TagRules.Geo
