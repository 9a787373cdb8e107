import TagRules.Proofs.Engine.GeoSets

/-
  The two geographic collections are rebuilt independently.

  A rebuild is a refresh of the files and then two loads, each of which may fail by
  itself.  `rebuildGeo_independent` says what every combination comes to.  A load is
  attempted if there are codes to keep sets for, from the files as the refresh left them;
  what it builds, and whether it fails, depends neither on the other load nor on what the
  refresh returned.  Its collection is then the one it built, or the old one.  The result
  is the first failure of the two, and is a failure for no other reason.
-/

namespace TagRules.Engine

/-- A collection was to be rebuilt, because there are codes to keep sets for, and could not be. -/
def Fails (tags : List String) (result : Except Error Nat) (fault : Error) : Prop :=
  tags ≠ [] ∧ result = .error fault

variable (e : Engine) (files : FileTree)

/-! ## One load -/

theorem rebuildNetworks_of_error {fault : Error} (h : (e.rebuildNetworks files).1 = .error fault) :
    (e.rebuildNetworks files).2 = e := by
  unfold rebuildNetworks at h ⊢
  split at h
  · rfl
  · cases h

theorem rebuildSites_of_error {fault : Error} (h : (e.rebuildSites files).1 = .error fault) :
    (e.rebuildSites files).2 = e := by
  unfold rebuildSites at h ⊢
  split at h
  · rfl
  · cases h

theorem rebuildSites_withNetworks (geoIp : CodedSets NetworkRules) :
    { e with geoIp }.rebuildSites files =
      ((e.rebuildSites files).1, { (e.rebuildSites files).2 with geoIp }) := by
  unfold rebuildSites
  dsimp only
  cases e.catalog.domainsFor files e.geoSiteTags <;> rfl

theorem rebuildWanted_eq_error_iff {tags : List String}
    {load : Engine → FileTree → Except Error Nat × Engine} {fault : Error} :
    (e.rebuildWanted tags load files).1 = .error fault ↔ Fails tags (load e files).1 fault := by
  unfold rebuildWanted Fails
  cases tags with
  | nil => simp
  | cons tag tags =>
    obtain ⟨result, after⟩ := load e files
    cases result <;> simp [Except.map]

/-- The networks after a load that was attempted if it was wanted. -/
theorem wantedNetworks_eq :
    (e.rebuildWanted e.geoIpTags rebuildNetworks files).2 =
      { e with geoIp :=
          if !e.geoIpTags.isEmpty && (e.rebuildNetworks files).1.isOk then
            (e.rebuildNetworks files).2.geoIp
          else e.geoIp } := by
  rw [rebuildWanted_networks]
  cases e.geoIpTags.isEmpty with
  | true => rfl
  | false =>
    cases hload : (e.rebuildNetworks files).1 with
    | ok count => exact rebuildNetworks_frame e files
    | error fault => exact rebuildNetworks_of_error e files hload

theorem wantedSites_eq (geoIp : CodedSets NetworkRules) :
    ({ e with geoIp }.rebuildWanted e.geoSiteTags rebuildSites files).2 =
      { e with
        geoIp
        geoSite :=
          if !e.geoSiteTags.isEmpty && (e.rebuildSites files).1.isOk then
            (e.rebuildSites files).2.geoSite
          else e.geoSite } := by
  have hwanted := rebuildWanted_sites { e with geoIp } files
  dsimp only at hwanted
  rw [hwanted, rebuildSites_withNetworks]
  cases e.geoSiteTags.isEmpty with
  | true => rfl
  | false =>
    cases hload : (e.rebuildSites files).1 with
    | ok count =>
      dsimp only
      rw [rebuildSites_frame]
      rfl
    | error fault =>
      dsimp only
      rw [rebuildSites_of_error e files hload]
      rfl

/-! ## Both loads -/

theorem first_eq_error_iff (first second : Except Error Unit) (fault : Error) :
    (match first with
      | .error fault => .error fault
      | .ok () => second) = Except.error fault ↔
      first = .error fault ∨ (∀ other, first ≠ .error other) ∧ second = .error fault := by
  cases first with
  | error other => simp
  | ok u => simp

theorem rebuildGeo_eq_error_iff (force : Bool) (s : Surroundings) (fault : Error) :
    (e.rebuildGeo force s).1 = .error fault ↔
      Fails e.geoIpTags (e.rebuildNetworks (e.refreshGeo force s).files).1 fault ∨
        (∀ other, ¬Fails e.geoIpTags (e.rebuildNetworks (e.refreshGeo force s).files).1 other) ∧
          Fails e.geoSiteTags (e.rebuildSites (e.refreshGeo force s).files).1 fault := by
  let files := (e.refreshGeo force s).files
  let between := (e.rebuildWanted e.geoIpTags rebuildNetworks files).2
  have hfirst := first_eq_error_iff (e.rebuildWanted e.geoIpTags rebuildNetworks files).1
    (between.rebuildWanted between.geoSiteTags rebuildSites files).1 fault
  have hbetween : between = { e with geoIp := between.geoIp } := wantedNetworks_frame e files
  refine Iff.trans hfirst ?_
  rw [hbetween]
  simp only [ne_eq, rebuildWanted_eq_error_iff, rebuildSites_withNetworks, files]

/-- However the refresh ends, each collection is rebuilt from the files it left, if there are codes
to keep sets for, and stays as it was if it cannot be rebuilt, whatever becomes of the other one.
Nothing else of the engine changes.  The result is a failure exactly if a rebuild that was
attempted failed, and then it is the first such failure. -/
theorem rebuildGeo_independent (force : Bool) (s : Surroundings) :
    let refreshed : Except Error Bool × Surroundings :=
      match e.refresher with
      | none => (.ok false, s)
      | some r => r.refresh force e.fetchTimeout s
    let networks := e.rebuildNetworks refreshed.2.files
    let sites := e.rebuildSites refreshed.2.files
    let done := e.rebuildGeo force s
    done.2.2 = refreshed.2 ∧
      done.2.1 = { e with
        geoIp :=
          if !e.geoIpTags.isEmpty && networks.1.isOk then networks.2.geoIp else e.geoIp
        geoSite :=
          if !e.geoSiteTags.isEmpty && sites.1.isOk then sites.2.geoSite else e.geoSite } ∧
      ∀ fault, done.1 = .error fault ↔
        Fails e.geoIpTags networks.1 fault ∨
          (∀ other, ¬Fails e.geoIpTags networks.1 other) ∧ Fails e.geoSiteTags sites.1 fault := by
  intro refreshed networks sites done
  have hrefreshed : e.refreshGeo force s = refreshed.2 := by
    unfold refreshGeo refreshed
    cases e.refresher <;> rfl
  refine ⟨hrefreshed, ?_, fun fault => ?_⟩
  · have hengine := rebuildGeo_engine e force s
    dsimp only at hengine
    rw [wantedNetworks_eq] at hengine
    rw [show done.2.1 = _ from hengine, wantedSites_eq, hrefreshed]
  · rw [show done.1 = (e.rebuildGeo force s).1 from rfl, rebuildGeo_eq_error_iff, hrefreshed]

end TagRules.Engine
