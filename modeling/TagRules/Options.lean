import TagRules.Declaration
import TagRules.Json.Record
import TagRules.Table.Source

/-
  Options: how an engine is set up.

  Options are read from JSON.  Every field may be missing, and then has its value in
  `Options.standard`.  `validate` refuses options that an engine cannot run with; it
  reports the first thing that is wrong, in the order in which it looks.
-/

namespace TagRules

open Text

/-- How an engine is set up.  Times are in seconds. -/
structure Options where
  geoIpPath : Option String
  geoSitePath : Option String
  geoIpTags : List String
  geoSiteTags : List String
  geoIpUpgradeUrl : Option String
  geoSiteUpgradeUrl : Option String
  cacheTtl : Nat
  cacheCapacity : Nat
  fetchTimeout : Nat
  reloadInterval : Nat
  geoReloadInterval : Nat
  reloadWorkers : Nat
  manifest : Option String
  tables : List Declaration
  deriving DecidableEq, Repr

namespace Options

def standardCacheCapacity : Nat := 4096

def standardCacheTtl : Nat := 300

def standardFetchTimeout : Nat := 30

/-- What stands for missing fields. -/
def standard : Options where
  geoIpPath := none
  geoSitePath := none
  geoIpTags := []
  geoSiteTags := []
  geoIpUpgradeUrl := none
  geoSiteUpgradeUrl := none
  cacheTtl := standardCacheTtl
  cacheCapacity := standardCacheCapacity
  fetchTimeout := standardFetchTimeout
  reloadInterval := 300
  geoReloadInterval := 24 * 60 * 60
  reloadWorkers := 4
  manifest := none
  tables := []

instance : Inhabited Options := ⟨standard⟩

end Options

open Json

/-- The parts of a declaration that have been read. -/
structure Declaration.Draft where
  kind : Option TableKind
  tags : Option (List String)
  source : Option String

namespace Declaration

def fields : List (RecordField Draft) :=
  [⟨"kind", fun v d => ((choice? v).bind TableKind.ofName?).map fun kind =>
      { d with kind := some kind }⟩,
   ⟨"tags", fun v d => (list? text? v).map fun tags => { d with tags := some tags }⟩,
   ⟨"from", fun v d => (text? v).map fun source => { d with source := some source }⟩]

/-- Reads a declaration, of which no part may be missing. -/
def ofJson? (v : Json) : Option Declaration := do
  let draft ← readRecord fields ⟨none, none, none⟩ v
  some ⟨← draft.kind, ← draft.tags, ← draft.source⟩

end Declaration

namespace Options

def fields : List (RecordField Options) :=
  [⟨"geoip_path", fun v o => (optional? text? v).map fun x => { o with geoIpPath := x }⟩,
   ⟨"geosite_path", fun v o => (optional? text? v).map fun x => { o with geoSitePath := x }⟩,
   ⟨"geoip_cache", fun v o => (list? text? v).map fun x => { o with geoIpTags := x }⟩,
   ⟨"geosite_cache", fun v o => (list? text? v).map fun x => { o with geoSiteTags := x }⟩,
   ⟨"geoip_upgrade_url", fun v o =>
      (optional? text? v).map fun x => { o with geoIpUpgradeUrl := x }⟩,
   ⟨"geosite_upgrade_url", fun v o =>
      (optional? text? v).map fun x => { o with geoSiteUpgradeUrl := x }⟩,
   ⟨"cache_ttl_secs", fun v o => (word64? v).map fun x => { o with cacheTtl := x }⟩,
   ⟨"cache_capacity", fun v o => (word64? v).map fun x => { o with cacheCapacity := x }⟩,
   ⟨"fetch_timeout_secs", fun v o => (word64? v).map fun x => { o with fetchTimeout := x }⟩,
   ⟨"reload_interval_secs", fun v o => (word64? v).map fun x => { o with reloadInterval := x }⟩,
   ⟨"geo_reload_interval_secs", fun v o =>
      (word64? v).map fun x => { o with geoReloadInterval := x }⟩,
   ⟨"reload_workers", fun v o => (word64? v).map fun x => { o with reloadWorkers := x }⟩,
   ⟨"datatables", fun v o => (optional? text? v).map fun x => { o with manifest := x }⟩,
   ⟨"tables", fun v o =>
      (list? Declaration.ofJson? v).map fun x => { o with tables := x }⟩]

def ofJson? (v : Json) : Option Options := readRecord fields standard v

/-- The first setting that has to be positive and is not. -/
def notPositive? (o : Options) : Option PositiveSetting :=
  if o.reloadInterval = 0 then some .reloadInterval
  else if o.geoReloadInterval = 0 then some .geoReloadInterval
  else if o.reloadWorkers = 0 then some .reloadWorkers
  else if o.cacheCapacity = 0 then some .cacheCapacity
  else none

/-- The first upgrade URL that is none. -/
def badUrl? (o : Options) : Option String :=
  (o.geoIpUpgradeUrl.toList ++ o.geoSiteUpgradeUrl.toList).find? fun url => !isUrl url.toList

/-- What an engine cannot run with. -/
def fault? (o : Options) : Option OptionsFault :=
  (o.notPositive?.map .notPositive).or <|
    (o.badUrl?.map .upgradeUrl).or <|
      (o.tables.find? Declaration.isTagless).map fun d => .noTags d.kind

def validate (o : Options) : Except OptionsFault Unit :=
  match o.fault? with
  | some fault => .error fault
  | none => .ok ()

/-- Reads options from text and refuses those that an engine cannot run with. -/
def read (text : String) : Except OptionsFault Options := do
  let some o := (Json.ofString? text).bind ofJson? | .error .malformed
  o.validate
  return o

def ofFile (files : FileTree) (path : String) : Except OptionsFault Options :=
  match files.readText path with
  | .ok text => read text
  | .error fault => .error (.unreadable path fault)

end Options

namespace KindSelection

def fields : List (RecordField KindSelection) :=
  [⟨"domain", fun v r => (bool? v).map fun b => { r with domain := b }⟩,
   ⟨"network", fun v r => (bool? v).map fun b => { r with network := b }⟩,
   ⟨"ecs", fun v r => (bool? v).map fun b => { r with client := b }⟩,
   ⟨"keyword", fun v r => (bool? v).map fun b => { r with keyword := b }⟩]

def ofJson? (v : Json) : Option KindSelection := readRecord fields none v

def ofString? (s : String) : Option KindSelection := (Json.ofString? s).bind ofJson?

end KindSelection

end TagRules
