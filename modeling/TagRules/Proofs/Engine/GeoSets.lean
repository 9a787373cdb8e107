import TagRules.Engine.Reload

/-
  What a rebuild does to the geographic sets.

  The sets that the catalog has codes for are replaced and the others stay, so that after
  a rebuild the set of a code is that of the list last returned for it
  (`rebuildNetworks_get?`).  A catalog that cannot be read changes nothing.
-/

namespace TagRules

open Net

namespace CodedSets

variable {α : Type}

theorem foldl_insert_eq_insertMany (m : Std.ExtTreeMap String α) (entries : List (String × α)) :
    entries.foldl (fun m (key, a) => m.insert key a) m = m.insertMany entries := by
  induction entries generalizing m with
  | nil => exact Std.ExtTreeMap.insertMany_nil.symm
  | cons first rest ih =>
    rw [List.foldl_cons, ih]
    exact Std.ExtTreeMap.insertMany_cons.symm

/-- New sets take the place of those of the same codes and leave the others alone. -/
theorem get?_replace (sets : CodedSets α) (fresh : Std.ExtTreeMap String α) (code : String) :
    (sets.replace fresh).1.get? code = fresh[code]?.or (sets.get? code) := by
  unfold replace get?
  dsimp only
  rw [foldl_insert_eq_insertMany]
  cases h : fresh[code]? with
  | some a =>
    have hmem : (code, a) ∈ fresh.toList := Std.ExtTreeMap.mem_toList_iff_getElem?_eq_some.mpr h
    exact Std.ExtTreeMap.getElem?_insertMany_list_of_mem (Std.compare_eq_iff_eq.mpr rfl)
      fresh.distinct_keys_toList hmem
  | none =>
    have hnot : (fresh.toList.map Prod.fst).contains code = false := by
      rw [Bool.eq_false_iff, ne_eq, List.contains_iff_mem]
      intro hmem
      obtain ⟨entry, hentry, rfl⟩ := List.mem_map.mp hmem
      rw [Std.ExtTreeMap.mem_toList_iff_getElem?_eq_some.mp hentry] at h
      cases h
    exact Std.ExtTreeMap.getElem?_insertMany_list_of_contains_eq_false hnot

end CodedSets

namespace Engine

/-- The networks that a catalog returned for a code, if it returned any at all. -/
def listed (result : Except Error Geo.Networks) (code : String) : Option (List Network) :=
  match result with
  | .ok networks => networks[code]?
  | .error _ => none

theorem rebuildNetworks_get? (e : Engine) (files : FileTree) (code : String) :
    (e.rebuildNetworks files).2.geoIp.get? code =
      ((listed (e.catalog.networksFor files e.geoIpTags) code).map NetworkRules.ofList).or
        (e.geoIp.get? code) := by
  unfold rebuildNetworks
  cases e.catalog.networksFor files e.geoIpTags with
  | error fault => rfl
  | ok networks =>
    dsimp only [listed]
    rw [CodedSets.get?_replace, Std.ExtTreeMap.getElem?_map]

theorem rebuildNetworks_frame (e : Engine) (files : FileTree) :
    (e.rebuildNetworks files).2 = { e with geoIp := (e.rebuildNetworks files).2.geoIp } := by
  unfold rebuildNetworks
  split <;> rfl

theorem rebuildSites_frame (e : Engine) (files : FileTree) :
    (e.rebuildSites files).2 = { e with geoSite := (e.rebuildSites files).2.geoSite } := by
  unfold rebuildSites
  split <;> rfl

theorem rebuildWanted_networks (e : Engine) (files : FileTree) :
    (e.rebuildWanted e.geoIpTags rebuildNetworks files).2 =
      if e.geoIpTags.isEmpty then e else (e.rebuildNetworks files).2 := by
  unfold rebuildWanted
  split <;> rfl

theorem rebuildWanted_sites (e : Engine) (files : FileTree) :
    (e.rebuildWanted e.geoSiteTags rebuildSites files).2 =
      if e.geoSiteTags.isEmpty then e else (e.rebuildSites files).2 := by
  unfold rebuildWanted
  split <;> rfl

theorem wantedNetworks_frame (e : Engine) (files : FileTree) :
    (e.rebuildWanted e.geoIpTags rebuildNetworks files).2 =
      { e with geoIp := (e.rebuildWanted e.geoIpTags rebuildNetworks files).2.geoIp } := by
  rw [rebuildWanted_networks]
  split
  · rfl
  · rw [rebuildNetworks_frame]

theorem wantedSites_frame (e : Engine) (files : FileTree) :
    (e.rebuildWanted e.geoSiteTags rebuildSites files).2 =
      { e with geoSite := (e.rebuildWanted e.geoSiteTags rebuildSites files).2.geoSite } := by
  rw [rebuildWanted_sites]
  split
  · rfl
  · rw [rebuildSites_frame]

theorem rebuildGeo_engine (e : Engine) (force : Bool) (s : Surroundings) :
    (e.rebuildGeo force s).2.1 =
      let files := (e.refreshGeo force s).files
      let between := (e.rebuildWanted e.geoIpTags rebuildNetworks files).2
      (between.rebuildWanted between.geoSiteTags rebuildSites files).2 := rfl

theorem rebuildGeo_frame (e : Engine) (force : Bool) (s : Surroundings) :
    (e.rebuildGeo force s).2.1 =
      { e with
        geoIp := (e.rebuildGeo force s).2.1.geoIp
        geoSite := (e.rebuildGeo force s).2.1.geoSite } := by
  rw [rebuildGeo_engine]
  dsimp only
  rw [wantedSites_frame, wantedNetworks_frame]

/-- The networks are rebuilt from the files that the refresh left, if there are codes to keep sets
for. -/
theorem rebuildGeo_get? (e : Engine) (force : Bool) (s : Surroundings) (code : String) :
    (e.rebuildGeo force s).2.1.geoIp.get? code =
      if e.geoIpTags.isEmpty then e.geoIp.get? code
      else (e.rebuildNetworks (e.refreshGeo force s).files).2.geoIp.get? code := by
  rw [rebuildGeo_engine]
  dsimp only
  rw [wantedSites_frame, rebuildWanted_networks]
  split <;> rfl

end Engine

end TagRules
