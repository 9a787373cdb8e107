import TagRules.Engine.CodedSets
import TagRules.Engine.RecentMatches
import TagRules.Engine.TableIndex
import TagRules.Geo.Refresh
import TagRules.Options

/-
  The engine: tables, geographic sets, the memory of recent matches and counters.

  Tags are taken in any spelling and used in canonical form.  Every match is counted,
  and what is counted goes to a second set of counters as well, if there is one.
-/

namespace TagRules

open Net

/-- What answers queries about tags. -/
structure Engine where
  tables : TableIndexes
  geoIp : CodedSets NetworkRules
  geoSite : CodedSets DomainRules
  cache : RecentMatches
  counters : Counters
  sink : Option Counters
  catalog : Catalog
  refresher : Option Geo.Refresher
  geoIpTags : List String
  geoSiteTags : List String
  fetchTimeout : Nat

namespace Engine

def empty : Engine where
  tables := .empty
  geoIp := .empty
  geoSite := .empty
  cache := .create Options.standardCacheCapacity Options.standardCacheTtl
  counters := .empty
  sink := none
  catalog := .nothing
  refresher := none
  geoIpTags := []
  geoSiteTags := []
  fetchTimeout := Options.standardFetchTimeout

instance : Inhabited Engine := ⟨empty⟩

def withGeoCodes (e : Engine) (ipTags siteTags : List String) : Engine :=
  { e with geoIpTags := ipTags.map Tag.normalize, geoSiteTags := siteTags.map Tag.normalize }

def queryMetric : String := "dnsquery"

def clientMetric : String := "ecshits"

def count (e : Engine) (cls : CountClass) (name : String) : Engine :=
  { e with
    counters := e.counters.increment cls name 1
    sink := e.sink.map fun c => c.increment cls name 1 }

def countIf (e : Engine) (hit : Bool) (cls : CountClass) (name : String) : Bool × Engine :=
  (hit, if hit then e.count cls name else e)

def countMetric (e : Engine) (name : String) : Engine := e.count .metrics name

def countQuery (e : Engine) : Engine := e.countMetric queryMetric

def metric (e : Engine) (name : String) : UInt64 := e.counters.value .metrics name

def table? (e : Engine) (kind : TableKind) (tag : String) : Option Table :=
  e.tables.get? kind (Tag.normalize tag)

def putTable (e : Engine) (t : Table) : Engine :=
  { e with tables := e.tables.insert t.kind t }

def tableLines (e : Engine) : List String :=
  (e.tables.tables TableKind.all).map Table.describe

/-- How many entries a listing has at most, if nothing else is said. -/
def standardListLimit : Nat := 1000

/-- The entries of a table, or of the geographic set of a code, up to a limit; no limit is zero. -/
def list (e : Engine) (kind : ListTarget) (tag : String) (limit : Option Nat) : Listing :=
  let tag := Tag.normalize tag
  let limit := limit.getD standardListLimit
  match kind with
  | .table kind =>
    let entries := ((e.tables.get? kind tag).map fun t => t.rules.toList).getD []
    match kind with
    | .keyword | .network => .upTo limit false entries
    | .domain | .client => .inOrder limit entries
  | .geo .ip =>
    .upTo limit false (((e.geoIp.get? tag).map fun set => set.toList.map toString).getD [])
  | .geo .site => .inOrder limit (((e.geoSite.get? tag).map DomainRules.toList).getD [])

end Engine

end TagRules
