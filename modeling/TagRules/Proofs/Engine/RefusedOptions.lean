import TagRules.Engine.Startup
import TagRules.Proofs.Engine.GeoRebuilds
import TagRules.Proofs.Surroundings.Places

/-
  Options that are refused.

  Options are refused before anything is read, written or fetched, for the first of three
  reasons: they are not valid, or one of the two geographic files is to be kept fresh and has
  no path (`configured_eq_error_iff`).  What goes wrong later is told apart from this: sets that
  cannot be built are an error of the catalog, and a manifest that cannot be read is an error of
  a fetch or of a file.  So an error about options says that the surroundings are as they were
  (`ofOptions_refused_iff`).
-/

namespace TagRules.Engine

variable {o : Options} {e : Engine} {s s' : Surroundings} {fault : Error}

/-! ## Before anything is done -/

/-- There is a URL to keep a file fresh from, and no path of the file. -/
def LacksPath (path url : Option String) : Prop := url.isSome = true ∧ path = none

/-- Why options are refused: the first reason that there is. -/
inductive Refused (o : Options) : OptionsFault → Prop where
  | invalid {fault : OptionsFault} : o.validate = .error fault → Refused o fault
  | ip : o.validate = .ok () → LacksPath o.geoIpPath o.geoIpUpgradeUrl →
      Refused o (.upgradeWithoutPath .ip)
  | site : o.validate = .ok () → ¬LacksPath o.geoIpPath o.geoIpUpgradeUrl →
      LacksPath o.geoSitePath o.geoSiteUpgradeUrl → Refused o (.upgradeWithoutPath .site)

theorem target_eq_error_iff {kind : GeoKind} {path url : Option String} {fault : OptionsFault} :
    target kind path url = .error fault ↔
      LacksPath path url ∧ fault = .upgradeWithoutPath kind := by
  unfold target LacksPath
  cases url <;> cases path <;> simp [eq_comm]

theorem target_eq_ok_iff (kind : GeoKind) {path url : Option String} :
    (∃ goal, target kind path url = .ok goal) ↔ ¬LacksPath path url := by
  unfold target LacksPath
  cases url <;> cases path <;> simp

theorem refresherOf_eq_error_iff {fault : OptionsFault} :
    refresherOf o = .error fault ↔
      LacksPath o.geoIpPath o.geoIpUpgradeUrl ∧ fault = .upgradeWithoutPath .ip ∨
        ¬LacksPath o.geoIpPath o.geoIpUpgradeUrl ∧
          LacksPath o.geoSitePath o.geoSiteUpgradeUrl ∧ fault = .upgradeWithoutPath .site := by
  unfold refresherOf
  rw [bind_eq_error, target_eq_error_iff, ← target_eq_ok_iff .ip]
  refine or_congr_right ?_
  rw [← exists_and_right]
  refine exists_congr fun ip => and_congr_right fun _ => ?_
  rw [bind_eq_error, target_eq_error_iff]
  exact or_iff_left fun ⟨_, _, hdone⟩ => nomatch hdone

theorem configured_eq_error_iff {fault : OptionsFault} :
    configured o = .error fault ↔ Refused o fault := by
  have hsteps : configured o = .error fault ↔
      o.validate = .error fault ∨ o.validate = .ok () ∧ refresherOf o = .error fault := by
    unfold configured
    rw [bind_eq_error]
    refine or_congr_right ⟨?_, ?_⟩
    · rintro ⟨⟨⟩, hvalid, hrest⟩
      rcases bind_eq_error.mp hrest with hfault | ⟨refresher, -, hdone⟩
      · exact ⟨hvalid, hfault⟩
      · cases hdone
    · rintro ⟨hvalid, hfault⟩
      exact ⟨(), hvalid, bind_eq_error.mpr (.inl hfault)⟩
  rw [hsteps, refresherOf_eq_error_iff]
  constructor
  · rintro (hinvalid | ⟨hvalid, ⟨hip, rfl⟩ | ⟨hip, hsite, rfl⟩⟩)
    · exact .invalid hinvalid
    · exact .ip hvalid hip
    · exact .site hvalid hip hsite
  · rintro (hinvalid | ⟨hvalid, hip⟩ | ⟨hvalid, hip, hsite⟩)
    · exact .inl hinvalid
    · exact .inr ⟨hvalid, .inl ⟨hip, rfl⟩⟩
    · exact .inr ⟨hvalid, .inr ⟨hip, hsite, rfl⟩⟩

theorem exists_refused :
    (∃ fault, Refused o fault) ↔ (∃ fault, o.validate = .error fault) ∨
      LacksPath o.geoIpPath o.geoIpUpgradeUrl ∨ LacksPath o.geoSitePath o.geoSiteUpgradeUrl := by
  constructor
  · rintro ⟨fault, hinvalid | ⟨-, hip⟩ | ⟨-, -, hsite⟩⟩
    · exact .inl ⟨fault, hinvalid⟩
    · exact .inr (.inl hip)
    · exact .inr (.inr hsite)
  · intro h
    cases hvalid : o.validate with
    | error fault => exact ⟨fault, .invalid hvalid⟩
    | ok _ =>
      rw [hvalid] at h
      rcases h with ⟨fault, hfault⟩ | hlacks
      · cases hfault
      · by_cases hip : LacksPath o.geoIpPath o.geoIpUpgradeUrl
        · exact ⟨_, .ip hvalid hip⟩
        · exact ⟨_, .site hvalid hip (hlacks.resolve_left hip)⟩

/-! ## What goes wrong later -/

theorem loadFile_error {α : Type} {kind : GeoKind} {path : Option String}
    {decode : Text.Bytes → Option α} {files : FileTree}
    (h : Catalog.loadFile kind path decode files = .error fault) :
    ∃ inner, fault = .catalog inner := by
  unfold Catalog.loadFile at h
  split at h
  · exact ⟨_, (Except.error.inj h).symm⟩
  · obtain ⟨inner, -, rfl⟩ := mapError_eq_error.mp h
    exact ⟨inner, rfl⟩

theorem configured_catalog (h : configured o = .ok e) :
    e.catalog = .files o.geoIpPath o.geoSitePath := by
  obtain ⟨_, -, hrest⟩ := bind_eq_ok.mp h
  obtain ⟨refresher, -, hdone⟩ := bind_eq_ok.mp hrest
  rw [← Except.ok.inj hdone]
  rfl

section Files

variable {ipPath sitePath : Option String} (hcatalog : e.catalog = .files ipPath sitePath)

include hcatalog

theorem rebuildNetworks_error {files : FileTree}
    (h : (e.rebuildNetworks files).1 = .error fault) : ∃ inner, fault = .catalog inner := by
  unfold rebuildNetworks at h
  rw [hcatalog] at h
  split at h
  · next hload =>
    obtain rfl := Except.error.inj h
    exact loadFile_error hload
  · cases h

theorem rebuildSites_error {files : FileTree}
    (h : (e.rebuildSites files).1 = .error fault) : ∃ inner, fault = .catalog inner := by
  unfold rebuildSites at h
  rw [hcatalog] at h
  split at h
  · next hload =>
    obtain rfl := Except.error.inj h
    exact loadFile_error hload
  · cases h

theorem rebuildAll_error {files : FileTree} (h : (e.rebuildAll files).1 = .error fault) :
    ∃ inner, fault = .catalog inner := by
  unfold rebuildAll at h
  split at h
  · next other _ hnetworks =>
    obtain rfl := Except.error.inj h
    obtain ⟨-, hload⟩ := (rebuildWanted_eq_error_iff ..).mp (congrArg Prod.fst hnetworks)
    exact rebuildNetworks_error hcatalog hload
  · next between hnetworks =>
    have hbetween : between.catalog = .files ipPath sitePath := by
      rw [← hcatalog, show between = _ from (congrArg Prod.snd hnetworks).symm,
        wantedNetworks_frame]
    obtain ⟨-, hload⟩ := (rebuildWanted_eq_error_iff ..).mp h
    exact rebuildSites_error hbetween hload

end Files

theorem manifestDeclarations_error {manifest : String}
    (h : e.manifestDeclarations manifest s = (.error fault, s')) :
    (∃ inner, fault = .fetch manifest inner) ∨ ∃ inner, fault = .file inner := by
  unfold manifestDeclarations at h
  split at h
  · split at h
    · cases h
    · exact .inl ⟨_, (Except.error.inj (congrArg Prod.fst h)).symm⟩
  · split at h
    · split at h
      · cases h
      · exact .inr ⟨_, (Except.error.inj (congrArg Prod.fst h)).symm⟩
    · cases h

/-- Tables that cannot be loaded are no error at all, so that only the manifest is left. -/
theorem declareOptions_error (h : (e.declareOptions o s).1 = .error fault) :
    (∃ url inner, fault = .fetch url inner) ∨ ∃ inner, fault = .file inner := by
  unfold declareOptions at h
  dsimp only at h
  split at h
  · cases h
  · next manifest _ =>
    split at h
    · next other after hread =>
      obtain rfl := Except.error.inj h
      exact (manifestDeclarations_error hread).imp_left fun hfetch => ⟨manifest, hfetch⟩
    · cases h

/-- An engine that could be configured is not refused later. -/
theorem ofOptions_of_configured (h : configured o = .ok e) (s : Surroundings)
    (fault : OptionsFault) : (ofOptions o s).1 ≠ .error (.options fault) := by
  unfold ofOptions
  rw [h]
  dsimp only
  split
  · next other _ hsets =>
    obtain ⟨inner, rfl⟩ := rebuildAll_error (configured_catalog h) (congrArg Prod.fst hsets)
    exact nofun
  · intro hfault
    rcases declareOptions_error hfault with ⟨url, inner, hfetch⟩ | ⟨inner, hfile⟩
    · cases hfetch
    · cases hfile

/-- Options that are refused leave everything around as it was, so that nothing was fetched and no
file or directory touched, and nothing else is reported as an error about options.  They are
refused exactly if they are not valid or have an upgrade URL without the path of its file. -/
theorem ofOptions_refused_iff (o : Options) (s : Surroundings) :
    (∀ fault s', ofOptions o s = (.error (.options fault), s') ↔ Refused o fault ∧ s' = s) ∧
      ((∃ fault s', ofOptions o s = (.error (.options fault), s')) ↔
        (∃ fault, o.validate = .error fault) ∨ LacksPath o.geoIpPath o.geoIpUpgradeUrl ∨
          LacksPath o.geoSitePath o.geoSiteUpgradeUrl) := by
  have hrefused : ∀ fault s', ofOptions o s = (.error (.options fault), s') ↔
      Refused o fault ∧ s' = s := by
    intro fault s'
    rw [← configured_eq_error_iff]
    cases hbegun : configured o with
    | error other =>
      unfold ofOptions
      rw [hbegun]
      simp [eq_comm]
    | ok blank =>
      have hlater := ofOptions_of_configured hbegun s fault
      exact ⟨fun hdone => absurd (congrArg Prod.fst hdone) hlater, nofun⟩
  refine ⟨hrefused, ?_⟩
  rw [← exists_refused]
  refine exists_congr fun fault => ?_
  simp only [hrefused, exists_and_left, exists_eq, and_true]

/-- The path of the other file does not help. -/
example (s : Surroundings) :
    let o := { Options.standard with
      geoIpPath := some "ip.dat", geoSiteUpgradeUrl := some "https://geo.example/site.dat" }
    ofOptions o s = (.error (.options (.upgradeWithoutPath .site)), s) := by rfl

end TagRules.Engine
