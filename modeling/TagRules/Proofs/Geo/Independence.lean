import TagRules.Proofs.Geo.Downloads

/-
  The two geographic files, refreshed by themselves and together.

  A download depends on the tree only through its own two places and the files on the way to
  them, so a tree that another download went over is as good as the one before if the
  targets are unrelated (`Spared`).  With that, the turn of either file leaves the same at its
  path whether or not the other file is kept fresh as well, and each is downloaded exactly if it
  needed it before the refresh.  What it is downloaded from is the same as well, unless both
  files have one URL that gives something else the second time.

  There is one exception.  A first file that is not there and cannot be downloaded ends the
  refresh, and the second does not get its turn (`refresh_independent`).
-/

namespace TagRules

open Text

namespace FileTree

variable {t t' : FileTree} {path : String}

/-- What is at a path: a file with its content and its time, a directory, or nothing. -/
def sight (t : FileTree) (path : String) : Option Entry := (t.look path).toOption

theorem HasFile.sight_eq {f : File} (h : t.HasFile path f) : t.sight path = some (.file f) := by
  unfold sight
  rw [h.look_eq]
  rfl

theorem sight_congr (h : t.Rooted) (h' : t'.Rooted) (hplain : (Path.ofString path).IsPlain)
    (hsame : t'.entryAt? (Path.ofString path).place = t.entryAt? (Path.ofString path).place) :
    t'.sight path = t.sight path := by
  ext e
  have hfind := find_congr h h' hplain hsame e
  unfold sight look
  cases hleft : t'.find (Path.ofString path) <;> cases hright : t.find (Path.ofString path) <;>
    simp_all [Except.toOption]

theorem isPresent_eq (t : FileTree) (path : String) :
    t.isPresent path = (t.sight path).isSome := by
  unfold isPresent sight
  cases t.look path <;> rfl

theorem metadata_toOption (t : FileTree) (path : String) :
    (t.metadata path).toOption = (t.sight path).map fun e =>
      match e with
      | .file f => f.metadata
      | .directory => t.folders (Path.ofString path).place := by
  unfold metadata sight look find
  cases hplace : t.locate (Path.ofString path) with
  | error fault => rfl
  | ok place =>
    obtain ⟨-, rfl, -⟩ := locate_eq_ok.mp hplace
    dsimp only [Bind.bind, Except.bind]
    rcases t.entryAt? (Path.ofString path).place with _ | ⟨f⟩ | _ <;> rfl

end FileTree

namespace Geo

open FileTree

variable {target : Target} {kind : Option GeoKind} {timeout : Nat} {s s' : Surroundings}

theorem needsDownload_eq (r : Refresher) (t : FileTree) (path : String) :
    r.needsDownload t path =
      match (t.metadata path).toOption with
      | none => true
      | some seen => seen.size == 0 || r.isStale (t.now - seen.written) := by
  unfold Refresher.needsDownload
  cases t.metadata path <;> rfl

/-! ## Trees that are as good as each other for a download -/

namespace Target

/-- Nothing changed that a download of a target has to do with. -/
structure Spared (target : Target) (t t' : FileTree) : Prop where
  rooted : t.Rooted
  rooted' : t'.Rooted
  now_eq : t'.now = t.now
  entryAt?_eq : ∀ q ∈ target.places, t'.entryAt? q = t.entryAt? q
  folders_eq : t'.folders target.place = t.folders target.place
  fileAt?_eq : ∀ q, q <:+ target.place.tail → t'.fileAt? q = t.fileAt? q

theorem place_mem (target : Target) : target.place ∈ target.places := by simp [places]

theorem stagingPlace_mem (target : Target) : target.stagingPlace ∈ target.places := by
  simp [places]

namespace Spared

variable {t t' : FileTree}

theorem refl (ht : t.Rooted) : target.Spared t t :=
  ⟨ht, ht, rfl, fun _ _ => rfl, rfl, fun _ _ => rfl⟩

theorem symm (h : target.Spared t t') : target.Spared t' t :=
  ⟨h.rooted', h.rooted, h.now_eq.symm, fun q hq => (h.entryAt?_eq q hq).symm, h.folders_eq.symm,
    fun q hq => (h.fileAt?_eq q hq).symm⟩

theorem sight_eq (h : target.Spared t t') (hplain : (Path.ofString target.path).IsPlain) :
    t'.sight target.path = t.sight target.path :=
  sight_congr h.rooted h.rooted' hplain (h.entryAt?_eq _ target.place_mem)

theorem needsDownload_eq (h : target.Spared t t') (hplain : (Path.ofString target.path).IsPlain)
    (r : Refresher) : r.needsDownload t' target.path = r.needsDownload t target.path := by
  have hfolders : t'.folders (Path.ofString target.path).place =
      t.folders (Path.ofString target.path).place := h.folders_eq
  rw [Geo.needsDownload_eq, Geo.needsDownload_eq, metadata_toOption, metadata_toOption,
    h.sight_eq hplain, hfolders, h.now_eq]

theorem staged_eq (h : target.Spared t t') (body : Bytes) :
    target.staged t' body = target.staged t body := by
  unfold staged keepsReadable
  rw [h.now_eq, h.entryAt?_eq _ target.stagingPlace_mem]

theorem admits (h : target.Spared t t') (hadmits : target.Admits t) : target.Admits t' :=
  { hadmits with
    clear := fun q hq => (h.fileAt?_eq q hq).trans (hadmits.clear q hq)
    place_ne := by
      rw [h.entryAt?_eq _ target.place_mem]
      exact hadmits.place_ne
    staging_ne := by
      rw [h.entryAt?_eq _ target.stagingPlace_mem]
      exact hadmits.staging_ne }

end Spared

end Target

theorem download_error_sight (hs : s.files.Rooted) (hplain : (Path.ofString target.path).IsPlain)
    (hfails : (download target kind timeout s).1 ≠ .ok ()) :
    (download target kind timeout s).2.files.sight target.path = s.files.sight target.path := by
  have hrooted := (download_changes target kind timeout s).rooted hs
  have haround := download_around target kind timeout s hplain
  have htouched : target.touched (download target kind timeout s).1 = [target.stagingPlace] := by
    cases hresult : (download target kind timeout s).1 with
    | ok => exact absurd hresult hfails
    | error e => rfl
  rw [htouched] at haround
  refine sight_congr hs hrooted hplain ?_
  -- The path leads to a place that is not the staging place and not on the way, or nowhere else
  -- than where it begins.
  by_cases hplace : target.place = []
  · have hgiven : Place.isGiven target.place = true := by rw [hplace]; rfl
    exact (entryAt?_isGiven _ hgiven).trans (entryAt?_isGiven _ hgiven).symm
  · exact haround.entryAt?_eq _ (Target.place_ne hplain) (not_suffix_tail hplace)

/-- Downloads of one target from trees that are as good as each other for it leave the same. -/
theorem Target.Spared.download_sight (h : target.Spared s.files s'.files)
    (hplain : (Path.ofString target.path).IsPlain)
    (hanswer : s'.remote.answer target.url = s.remote.answer target.url) (kind : GeoKind) :
    (download target (some kind) timeout s').2.files.sight target.path =
      (download target (some kind) timeout s).2.files.sight target.path := by
  have hsame : (download target (some kind) timeout s').1 = .ok () ↔
      (download target (some kind) timeout s).1 = .ok () := by
    rw [download_eq_ok_iff h.rooted' hplain, download_eq_ok_iff h.rooted hplain, hanswer]
    simp only [h.staged_eq]
    exact and_congr_left fun _ => ⟨h.symm.admits, h.admits⟩
  -- Both leave the same body, written at the same time, or both leave what was there.
  by_cases hok : (download target (some kind) timeout s).1 = .ok ()
  · obtain ⟨-, -, body, _, hbody, hfile, hpasses⟩ := download_eq_ok (Prod.ext hok rfl)
    obtain ⟨-, -, body', _, hbody', hfile', hpasses'⟩ :=
      download_eq_ok (Prod.ext (hsame.mpr hok) rfl)
    obtain rfl := Except.ok.inj (hbody.symm.trans (hanswer.symm.trans hbody'))
    obtain rfl := (hpasses kind rfl).1
    obtain rfl := (hpasses' kind rfl).1
    have hnow := (download_around target (some kind) timeout s hplain).now_eq
    have hnow' := (download_around target (some kind) timeout s' hplain).now_eq
    rw [hfile.sight_eq, hfile'.sight_eq, hnow, hnow', h.now_eq]
  · rw [download_error_sight h.rooted hplain hok,
      download_error_sight h.rooted' hplain (mt hsame.mp hok), h.sight_eq hplain]

/-! ## Unrelated targets -/

/-- Targets whose paths do not go back, with no place of one on the way to a place of the other. -/
structure Target.Unrelated (a b : Target) : Prop where
  plain : (Path.ofString a.path).IsPlain ∧ (Path.ofString b.path).IsPlain
  apart : ∀ p ∈ a.places, ∀ q ∈ b.places, ¬p <:+ q ∧ ¬q <:+ p

namespace Target.Unrelated

variable {a b : Target}

theorem symm (h : a.Unrelated b) : b.Unrelated a :=
  ⟨h.plain.symm, fun p hp q hq => (h.apart q hq p hp).symm⟩

/-- A download of one target leaves the tree as good for the other. -/
theorem spared (h : a.Unrelated b) (hs : s.files.Rooted) (kind : Option GeoKind) (timeout : Nat) :
    b.Spared s.files (download a kind timeout s).2.files := by
  have hchanges := download_changes a kind timeout s
  have haround := download_around a kind timeout s h.plain.1
  refine ⟨hs, hchanges.rooted hs, haround.now_eq, fun q hq => ?_, ?_, fun q hq => ?_⟩
  · refine haround.entryAt?_eq q (fun hmem => ?_) fun hway => ?_
    · exact (h.apart q (a.touched_subset _ hmem) q hq).1 List.suffix_rfl
    · exact (h.apart a.place a.place_mem q hq).2 (hway.trans (List.tail_suffix _))
  · refine haround.folders_eq _ (fun p hp => ?_) fun hway => ?_
    · exact (h.apart p (a.touched_subset _ hp) _ b.place_mem).2
    · exact (h.apart a.place a.place_mem _ b.place_mem).2 (hway.trans (List.tail_suffix _))
  · refine hchanges.fileAt?_eq q fun hmem => ?_
    exact (h.apart q hmem b.place b.place_mem).1 (hq.trans (List.tail_suffix _))

end Target.Unrelated

namespace Refresher

/-- The refresher of the file of one collection alone. -/
def only (r : Refresher) : GeoKind → Refresher
  | .ip => { r with site := none }
  | .site => { r with ip := none }

/-- A target is downloaded, or left alone if that was not asked for. -/
def attempt (asked : Bool) (kind : GeoKind) (target : Target) (timeout : Nat) (s : Surroundings) :
    Surroundings :=
  if asked then (download target (some kind) timeout s).2 else s

/-- Whether a file has its turn in a refresh. -/
def asks (r : Refresher) (force : Bool) (target : Target) (s : Surroundings) : Bool :=
  force || r.needsDownload s.files target.path

theorem needsDownload_of_missing (r : Refresher) {t : FileTree} {path : String}
    (h : t.isPresent path = false) : r.needsDownload t path = true := by
  rw [isPresent_eq, Option.isSome_eq_false_iff, Option.isNone_iff_eq_none] at h
  rw [needsDownload_eq, metadata_toOption, h]
  rfl

theorem refreshTarget_eq_error_iff (r : Refresher) (force : Bool) (kind : GeoKind)
    (hs : s.files.Rooted) (hplain : (Path.ofString target.path).IsPlain) :
    (∃ e, (r.refreshTarget force kind (some target) timeout s).1 = .error e) ↔
      s.files.isPresent target.path = false ∧
        (download target (some kind) timeout s).1 ≠ .ok () := by
  have hsight : (download target (some kind) timeout s).1 ≠ .ok () →
      (download target (some kind) timeout s).2.files.sight target.path =
        s.files.sight target.path := download_error_sight hs hplain
  have hmissing : s.files.isPresent target.path = false →
      r.needsDownload s.files target.path = true := r.needsDownload_of_missing
  revert hsight
  unfold refreshTarget
  dsimp only
  rcases download target (some kind) timeout s with ⟨e | _, s'⟩ <;> intro hsight
  · have hpresent : s'.files.isPresent target.path = s.files.isPresent target.path := by
      rw [isPresent_eq, isPresent_eq, hsight (by simp)]
    dsimp only
    rw [hpresent]
    cases hthere : s.files.isPresent target.path with
    | true => cases force || r.needsDownload s.files target.path <;> simp
    | false => simp [hmissing hthere]
  · cases force || r.needsDownload s.files target.path <;> simp

theorem refresh_only_ip (r : Refresher) (force : Bool) (timeout : Nat) (s : Surroundings) :
    (r.only .ip).refresh force timeout s = r.refreshTarget force .ip r.ip timeout s := by
  have hturn : (r.only .ip).refreshTarget force .ip r.ip timeout s =
      r.refreshTarget force .ip r.ip timeout s := rfl
  unfold refresh
  rw [show (r.only .ip).ip = r.ip from rfl, hturn]
  rcases r.refreshTarget force .ip r.ip timeout s with ⟨e | first, s'⟩
  · rfl
  · simp [refreshTarget, only]

theorem refresh_only_site (r : Refresher) (force : Bool) (timeout : Nat) (s : Surroundings) :
    (r.only .site).refresh force timeout s = r.refreshTarget force .site r.site timeout s := by
  have hturn : (r.only .site).refreshTarget force .site r.site timeout s =
      r.refreshTarget force .site r.site timeout s := rfl
  unfold refresh
  rw [show (r.only .site).refreshTarget force .ip (r.only .site).ip timeout s = (.ok false, s)
    from rfl]
  dsimp only
  rw [show (r.only .site).site = r.site from rfl, hturn]
  rcases r.refreshTarget force .site r.site timeout s with ⟨e | second, s'⟩ <;> simp

/-! ## Attempts -/

theorem attempt_spared {a b : Target} (h : a.Unrelated b) (hs : s.files.Rooted) (asked : Bool)
    (kind : GeoKind) (timeout : Nat) :
    b.Spared s.files (attempt asked kind a timeout s).files := by
  cases asked with
  | true => exact h.spared hs (some kind) timeout
  | false => exact .refl hs

theorem attempt_answer {a b : Target} (h : a.url ≠ b.url ∨ s.remote.Steady) (asked : Bool)
    (kind : GeoKind) (timeout : Nat) :
    (attempt asked kind a timeout s).remote.answer b.url = s.remote.answer b.url := by
  cases asked with
  | false => rfl
  | true =>
    rcases h with hurl | hsteady
    · rcases download_remote a (some kind) timeout s with hnone | hone
      · exact congrArg (Remote.answer · b.url) hnone
      · exact (congrArg (Remote.answer · b.url) hone).trans
          (s.remote.answer_count_of_ne hurl timeout)
    · exact (download_later a (some kind) timeout s).answer_eq hsteady b.url

theorem attempt_sight (h : target.Spared s.files s'.files)
    (hplain : (Path.ofString target.path).IsPlain)
    (hanswer : s'.remote.answer target.url = s.remote.answer target.url) (asked : Bool)
    (kind : GeoKind) (timeout : Nat) :
    (attempt asked kind target timeout s').files.sight target.path =
      (attempt asked kind target timeout s).files.sight target.path := by
  cases asked with
  | true => exact h.download_sight hplain hanswer kind
  | false => exact h.sight_eq hplain

/-- Two files whose targets are unrelated are refreshed independently of each other, with one
exception.  Each of them is downloaded exactly if that was asked for or it needed it before the
refresh, and is afterwards what a refresh of it alone would have made of it, for the second file if
the first has another URL or URLs go on giving the same.  The exception is the second file when
nothing is at the path of the first and the download of the first fails: then the refresh ends there
with an error, and the second file is left as it is. -/
theorem refresh_independent {r : Refresher} {ip site : Target} (hip : r.ip = some ip)
    (hsite : r.site = some site) (hapart : ip.Unrelated site) (force : Bool) (timeout : Nat)
    {s : Surroundings} (hs : s.files.Rooted) :
    let both := r.refresh force timeout s
    let ipAlone := (r.only .ip).refresh force timeout s
    let siteAlone := (r.only .site).refresh force timeout s
    let lost := s.files.isPresent ip.path = false ∧ (download ip (some .ip) timeout s).1 ≠ .ok ()
    (both.2.files.sight ip.path = ipAlone.2.files.sight ip.path ∧
        ipAlone.2 = attempt (r.asks force ip s) .ip ip timeout s) ∧
      (¬lost →
        (ip.url ≠ site.url ∨ s.remote.Steady →
          both.2.files.sight site.path = siteAlone.2.files.sight site.path) ∧
        both.2 = attempt (r.asks force site s) .site site timeout ipAlone.2) ∧
      (lost → (∃ e, both = (.error e, ipAlone.2)) ∧
        both.2.files.sight site.path = s.files.sight site.path) := by
  intro both ipAlone siteAlone lost
  have hipAlone : ipAlone = r.refreshTarget force .ip (some ip) timeout s := by
    rw [← hip]
    exact r.refresh_only_ip force timeout s
  have hbetween : ipAlone.2 = attempt (r.asks force ip s) .ip ip timeout s := by
    rw [hipAlone, refreshTarget_snd]
    rfl
  have hsiteAlone : siteAlone.2 = attempt (r.asks force site s) .site site timeout s := by
    rw [show siteAlone = _ from r.refresh_only_site force timeout s, hsite, refreshTarget_snd]
    rfl
  -- After the turn of the first file the tree is as good for the second as it was before.
  have hspared : site.Spared s.files ipAlone.2.files :=
    hbetween ▸ attempt_spared hapart hs (r.asks force ip s) .ip timeout
  have hlost : (∃ e, ipAlone.1 = .error e) ↔ lost := by
    rw [hipAlone]
    exact r.refreshTarget_eq_error_iff force .ip hs hapart.plain.1
  have hended : lost → ∃ e, both = (.error e, ipAlone.2) := by
    intro h
    obtain ⟨e, he⟩ := hlost.mpr h
    rw [hipAlone, ← hip] at he
    exact ⟨e, (refresh_of_error he).trans (by rw [hipAlone, ← hip])⟩
  have hwent : ¬lost → both.2 = attempt (r.asks force site s) .site site timeout ipAlone.2 := by
    intro h
    cases hresult : ipAlone.1 with
    | error e => exact absurd (hlost.mp ⟨e, hresult⟩) h
    | ok first =>
      rw [hipAlone, ← hip] at hresult
      have hboth : both.2 = _ := refresh_of_ok hresult
      rw [hboth, hip, ← hipAlone, hsite, refreshTarget_snd,
        hspared.needsDownload_eq hapart.plain.2]
      rfl
  refine ⟨⟨?_, hbetween⟩, fun h => ⟨fun hurls => ?_, hwent h⟩, fun h => ⟨hended h, ?_⟩⟩
  · by_cases h : lost
    · obtain ⟨e, he⟩ := hended h
      rw [he]
    · -- The second turn comes later and spares the first file.
      rw [hwent h]
      exact (attempt_spared hapart.symm hspared.rooted' _ .site timeout).sight_eq hapart.plain.1
  · have hanswer : ipAlone.2.remote.answer site.url = s.remote.answer site.url := by
      rw [hbetween, attempt_answer hurls]
    rw [hwent h, hsiteAlone]
    exact attempt_sight hspared hapart.plain.2 hanswer _ .site timeout
  · obtain ⟨e, he⟩ := hended h
    rw [he]
    exact hspared.sight_eq hapart.plain.2

def sample : Refresher :=
  ⟨some ⟨"ip.dat", "http://geo/ip"⟩, some ⟨"site.dat", "http://geo/site"⟩, standardInterval⟩

theorem sample_unrelated :
    Target.Unrelated ⟨"ip.dat", "http://geo/ip"⟩ ⟨"site.dat", "http://geo/site"⟩ :=
  ⟨by decide +kernel, by decide +kernel⟩

/-- A first file that is kept although its URL gives nothing leaves the second its turn. -/
theorem refresh_independent_kept :
    let s : Surroundings :=
      ⟨(FileTree.empty 1000).put ["ip.dat"] (.file ⟨[0x0A, 0x00], 990, true⟩),
        (Remote.empty true).setBody "http://geo/site" [0x0A, 0x00]⟩
    s.files.Rooted ∧
      (sample.refresh true 30 s).2.files.sight "ip.dat" = some (.file ⟨[0x0A, 0x00], 990, true⟩) ∧
      (sample.refresh true 30 s).2.files.sight "site.dat" =
        some (.file ⟨[0x0A, 0x00], 1000, true⟩) := by
  intro s
  have hs : s.files.Rooted := by
    refine IsOpen.put_rooted ⟨?_, "ip.dat", [], rfl, rfl⟩ _ (empty_rooted 1000)
    decide +kernel
  obtain ⟨⟨hip, -⟩, hsite, -⟩ :=
    refresh_independent (r := sample) rfl rfl sample_unrelated true 30 hs
  have hthere : s.files.isPresent "ip.dat" = true := by decide +kernel
  refine ⟨hs, hip.trans (by decide +kernel), ?_⟩
  obtain ⟨hsame, -⟩ := hsite fun hlost => by simp [hthere] at hlost
  exact (hsame (.inl (by decide))).trans (by decide +kernel)

/-- It is not so that the second file is what a refresh of it alone would have made of it.  Nothing
is at the path of the first, and its URL gives nothing. -/
theorem not_refresh_independent :
    ¬∀ (r : Refresher) (ip site : Target) (force : Bool) (timeout : Nat) (s : Surroundings),
      r.ip = some ip → r.site = some site → ip.Unrelated site → ip.url ≠ site.url →
        s.files.Rooted →
          (r.refresh force timeout s).2.files.sight site.path =
            ((r.only .site).refresh force timeout s).2.files.sight site.path := by
  intro h
  let s : Surroundings :=
    ⟨FileTree.empty 0, (Remote.empty true).setBody "http://geo/site" [0x0A, 0x00]⟩
  have hsame := h sample _ _ false 30 s rfl rfl sample_unrelated (by decide) (empty_rooted 0)
  have htogether : (sample.refresh false 30 s).2.files.sight "site.dat" = none := by
    decide +kernel
  have halone : ((sample.only .site).refresh false 30 s).2.files.sight "site.dat" =
      some (.file ⟨[0x0A, 0x00], 0, true⟩) := by
    decide +kernel
  rw [htogether, halone] at hsame
  cases hsame

end Refresher

end Geo

end TagRules
