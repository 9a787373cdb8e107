import TagRules.Proofs.Geo.Refresh

/-
  A file that was just downloaded is fresh, unless it is empty.

  A refresher measures files in two ways.  What it downloads has to be decodable before it takes
  the place of a file, and what is in place is kept while it has content and is neither from the
  future nor older than the interval (`needsDownload_eq_false_iff`).  A download leaves a file
  that is written at that moment (`download_eq_ok`), so only content can be missing, and a file
  that has some is left alone by the next refresh (`download_fresh`).  The two measures disagree
  about one body: no bytes at all are a file without entries, which can be decoded, and replace a
  file that has some (`not_fresh_of_download`).
-/

namespace TagRules.Geo.Refresher

open Text FileTree

variable {r : Refresher} {target : Target} {s s' : Surroundings}

theorem isStale_eq_false_iff {age : Int} :
    r.isStale age = false ↔ 0 ≤ age ∧ age ≤ r.interval := by
  simp only [isStale, Bool.or_eq_false_iff, decide_eq_false_iff_not]
  omega

/-- A file is kept while it has content and its age is at most the interval. -/
theorem needsDownload_eq_false_iff {files : FileTree} {path : String} {f : File}
    (h : files.HasFile path f) :
    r.needsDownload files path = false ↔
      f.content ≠ [] ∧ 0 ≤ files.now - f.written ∧ files.now - f.written ≤ r.interval := by
  have hseen : files.metadata path = .ok f.metadata :=
    metadata_eq_ok.mpr (.inl ⟨f, h.look_eq, rfl⟩)
  unfold needsDownload
  rw [hseen]
  simp only [File.metadata, Bool.or_eq_false_iff, isStale_eq_false_iff, beq_eq_false_iff_ne,
    ne_eq, List.length_eq_zero_iff]

theorem refreshTarget_of_fresh (h : r.needsDownload s.files target.path = false) (kind : GeoKind)
    (timeout : Nat) : r.refreshTarget false kind (some target) timeout s = (.ok false, s) := by
  unfold refreshTarget
  dsimp only
  rw [h]
  rfl

/-- Right after a download that succeeded, the file at the path is the body that was fetched, and
it needs another download exactly if that body is empty.  Otherwise the next refresh that is not
forced changes nothing and fetches nothing for it. -/
theorem download_fresh (r : Refresher) {kind : Option GeoKind} {timeout : Nat}
    (h : download target kind timeout s = (.ok (), s')) :
    ∃ body, s.remote.answer target.url = .ok body ∧ s'.files.content? target.path = some body ∧
      (r.needsDownload s'.files target.path = true ↔ body = []) ∧
      (body ≠ [] → ∀ (kind : GeoKind) (timeout : Nat),
        r.refreshTarget false kind (some target) timeout s' = (.ok false, s')) := by
  obtain ⟨-, -, body, isReadable, hanswer, hfile, -⟩ := download_eq_ok h
  have hfresh : r.needsDownload s'.files target.path = false ↔ body ≠ [] := by
    rw [needsDownload_eq_false_iff hfile]
    simp
  refine ⟨body, hanswer, hfile.content?_eq, ?_, ?_⟩
  · rw [← Bool.not_eq_false, hfresh, not_not]
  · intro hbody kind timeout
    exact refreshTarget_of_fresh (hfresh.mpr hbody) kind timeout

/-- A file of some time ago, and the body that its URL gives now. -/
def replacing (body : Bytes) : Surroundings :=
  ⟨(FileTree.empty 1000).put ["ip.dat"] (.file ⟨[0x0A, 0x00], 990, true⟩),
    (Remote.empty true).setBody "http://geo/ip" body⟩

theorem eq_ok_of_errorOf {result : Except Error Unit} (h : errorOf result = none) :
    result = .ok () := by
  cases result with
  | ok => rfl
  | error e => cases h

/-- A file that is replaced by one with an entry is not downloaded a second time. -/
theorem download_fresh_replaced :
    let ip : Target := ⟨"ip.dat", "http://geo/ip"⟩
    let r : Refresher := ⟨some ip, none, 5⟩
    let s := replacing [0x0A, 0x02, 0x0A, 0x00]
    let s' := (download ip (some .ip) 30 s).2
    download ip (some .ip) 30 s = (.ok (), s') ∧
      r.needsDownload s.files "ip.dat" = true ∧
      r.needsDownload s'.files "ip.dat" = false ∧
      r.refreshTarget false .ip (some ip) 30 s' = (.ok false, s') := by
  intro ip r s s'
  have hok : download ip (some .ip) 30 s = (.ok (), s') :=
    Prod.ext (eq_ok_of_errorOf (by decide +kernel)) rfl
  obtain ⟨body, hanswer, -, hneeds, hkept⟩ := download_fresh r hok
  have hbody : body ≠ [] := by
    rintro rfl
    rw [show s.remote.answer ip.url = .ok [0x0A, 0x02, 0x0A, 0x00] from
      Remote.answer_setBody_empty ..] at hanswer
    cases hanswer
  refine ⟨hok, by decide +kernel, ?_, hkept hbody .ip 30⟩
  rw [← Bool.not_eq_true, hneeds]
  exact hbody

/-- It is not so that a file is fresh right after a download that succeeded.  No bytes are a file
without entries. -/
theorem not_fresh_of_download :
    ¬∀ (r : Refresher) (target : Target) (kind : GeoKind) (timeout : Nat) (s s' : Surroundings),
      0 < r.interval → download target (some kind) timeout s = (.ok (), s') →
        r.needsDownload s'.files target.path = false := by
  intro h
  let ip : Target := ⟨"ip.dat", "http://geo/ip"⟩
  let r : Refresher := ⟨some ip, none, standardInterval⟩
  let s := replacing []
  have hneeds : r.needsDownload (download ip (some .ip) 30 s).2.files "ip.dat" = true := by
    decide +kernel
  have hok : download ip (some .ip) 30 s = (.ok (), (download ip (some .ip) 30 s).2) :=
    Prod.ext (eq_ok_of_errorOf (by decide +kernel)) rfl
  have hfresh := h r ip .ip 30 s _ (by decide) hok
  rw [hneeds] at hfresh
  cases hfresh

end TagRules.Geo.Refresher
