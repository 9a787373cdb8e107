import TagRules.Engine.Reload

/-
  Setting up an engine from options.

  Options are looked at first, and nothing is read, written or fetched for options
  that are refused.  Then the geographic files are refreshed and the sets built, which
  has to succeed, and the tables are added, those of the options before those of the
  manifest.
-/

namespace TagRules.Engine

open Text

/-- The file to keep fresh for a path and a URL; a URL has to have a path. -/
def target (kind : GeoKind) (path url : Option String) : Except OptionsFault (Option Geo.Target) :=
  match url, path with
  | none, _ => .ok none
  | some url, some path => .ok (some ⟨path, url⟩)
  | some _, none => .error (.upgradeWithoutPath kind)

/-- What the options say about keeping the geographic files fresh. -/
def refresherOf (o : Options) : Except OptionsFault Geo.Refresher := do
  let ip ← target .ip o.geoIpPath o.geoIpUpgradeUrl
  let site ← target .site o.geoSitePath o.geoSiteUpgradeUrl
  return ⟨ip, site, Geo.Refresher.standardInterval⟩

/-- The engine that options describe, before anything is loaded. -/
def configured (o : Options) : Except OptionsFault Engine := do
  o.validate
  let refresher ← refresherOf o
  let e : Engine := { Engine.empty with
    catalog := .files o.geoIpPath o.geoSitePath
    cache := .create o.cacheCapacity o.cacheTtl
    fetchTimeout := o.fetchTimeout
    refresher := if refresher.hasTargets then some refresher else none }
  return e.withGeoCodes o.geoIpTags o.geoSiteTags

/-- Builds both collections, the second only if the first can be built. -/
def rebuildAll (e : Engine) (files : FileTree) : Except Error Unit × Engine :=
  match e.rebuildWanted e.geoIpTags rebuildNetworks files with
  | (.error fault, e) => (.error fault, e)
  | (.ok (), e) => e.rebuildWanted e.geoSiteTags rebuildSites files

/-- The declarations of a manifest, which is at a URL or in a file; there are none if it is
neither. -/
def manifestDeclarations (e : Engine) (manifest : String) (s : Surroundings) :
    Except Error (List Declaration) × Surroundings :=
  if isUrl manifest.toList then
    match s.fetch manifest e.fetchTimeout with
    | (.ok body, s) => (.ok (Declaration.ofManifestLenient (ofUtf8Lossy body)), s)
    | (.error fault, s) => (.error (.fetch manifest fault), s)
  else if s.files.isFile manifest then
    match s.files.readText manifest with
    | .ok text => (.ok (Declaration.ofManifestLenient text.toList), s)
    | .error fault => (.error (.file fault), s)
  else (.ok [], s)

/-- Adds the tables of the options and those of their manifest. -/
def declareOptions (e : Engine) (o : Options) (s : Surroundings) :
    Except Error Engine × Surroundings :=
  let (e, s) := e.declareAll s o.tables
  match o.manifest with
  | none => (.ok e, s)
  | some manifest =>
    match e.manifestDeclarations manifest s with
    | (.error fault, s) => (.error fault, s)
    | (.ok declarations, s) =>
      let (e, s) := e.declareAll s declarations
      (.ok e, s)

/-- The engine that options describe. -/
def ofOptions (o : Options) (s : Surroundings) : Except Error Engine × Surroundings :=
  match configured o with
  | .error fault => (.error (.options fault), s)
  | .ok e =>
    let s := e.refreshGeo false s
    match e.rebuildAll s.files with
    | (.error fault, _) => (.error fault, s)
    | (.ok (), e) => e.declareOptions o s

end TagRules.Engine
