import TagRules.Engine.Basic
import TagRules.Engine.ReloadTally

/-
  Adding tables, reloading them, and rebuilding the geographic sets.

  A table that cannot be loaded is there all the same, without rules, and a later
  reload tries again.  The two geographic collections are rebuilt independently of
  each other, and a failed download stops neither.
-/

namespace TagRules.Engine

def addTag (e : Engine) (kind : TableKind) (tag source : String) (s : Surroundings) :
    Table × Engine × Surroundings :=
  let (_, t, s) := (Table.ofText s.files kind tag source).load e.fetchTimeout s
  (t, { e with tables := e.tables.insert kind t }, s)

def addTags (e : Engine) (kind : TableKind) (source : String) (s : Surroundings) :
    List String → List Table × Engine × Surroundings
  | [] => ([], e, s)
  | tag :: rest =>
    let (t, e, s) := e.addTag kind tag source s
    let (ts, e, s) := e.addTags kind source s rest
    (t :: ts, e, s)

/-- Adds the tables of a declaration, one for every tag that is not blank. -/
def declare (e : Engine) (d : Declaration) (s : Surroundings) :
    List Table × Engine × Surroundings :=
  e.addTags d.kind d.source s (d.tags.filter fun tag => !Text.isAllBlank tag.toList)

def declareAll (e : Engine) (s : Surroundings) : List Declaration → Engine × Surroundings
  | [] => (e, s)
  | d :: rest =>
    let (_, e, s) := e.declare d s
    e.declareAll s rest

def reloadIn (e : Engine) (kind : TableKind) (t : Table) (s : Surroundings) :
    Except Error Outcome × Engine × Surroundings :=
  let (result, t, s) := t.reload e.fetchTimeout s
  (result, { e with tables := e.tables.insert kind t }, s)

def reloadTable (e : Engine) (kind : TableKind) (tag : String) (s : Surroundings) :
    Option (Except Error Outcome) × Engine × Surroundings :=
  match e.table? kind tag with
  | none => (none, e, s)
  | some t =>
    let (result, e, s) := e.reloadIn kind t s
    (some result, e, s)

/-- The tables of a request, each with the kind of its index. -/
def requested (e : Engine) (request : KindSelection) : List (TableKind × Table) :=
  request.kinds.flatMap fun kind => (e.tables.ofKind kind).toList.map fun t => (kind, t)

def reloadEach (e : Engine) (s : Surroundings) (tally : ReloadTally) :
    List (TableKind × Table) → ReloadTally × Engine × Surroundings
  | [] => (tally, e, s)
  | (kind, t) :: rest =>
    let (result, e, s) := e.reloadIn kind t s
    e.reloadEach s (tally.record result) rest

def reloadTables (e : Engine) (request : KindSelection) (s : Surroundings) :
    ReloadTally × Engine × Surroundings :=
  e.reloadEach s .empty (e.requested request)

/-- The rules that can be added. -/
def domainRulesOf (given : List Geo.SiteRule) : DomainRules :=
  given.foldl (fun rules rule => (rules.add? rule.kind rule.value).getD rules) DomainRules.empty

/-- Rebuilds the geographic networks; says for how many codes. -/
def rebuildNetworks (e : Engine) (files : FileTree) : Except Error Nat × Engine :=
  match e.catalog.networksFor files e.geoIpTags with
  | .error fault => (.error fault, e)
  | .ok networks =>
    let (geoIp, count) := e.geoIp.replace (networks.map fun _ nets => NetworkRules.ofList nets)
    (.ok count, { e with geoIp })

/-- Rebuilds the geographic domain rules; says for how many codes. -/
def rebuildSites (e : Engine) (files : FileTree) : Except Error Nat × Engine :=
  match e.catalog.domainsFor files e.geoSiteTags with
  | .error fault => (.error fault, e)
  | .ok domains =>
    let (geoSite, count) := e.geoSite.replace (domains.map fun _ rules => domainRulesOf rules)
    (.ok count, { e with geoSite })

/-- Rebuilds a collection if there are codes to keep sets for. -/
def rebuildWanted (e : Engine) (tags : List String)
    (load : Engine → FileTree → Except Error Nat × Engine) (files : FileTree) :
    Except Error Unit × Engine :=
  if tags.isEmpty then (.ok (), e)
  else
    let (result, e) := load e files
    (result.map fun _ => (), e)

/-- Downloads the geographic files that need it, if there are any to keep fresh. -/
def refreshGeo (e : Engine) (force : Bool) (s : Surroundings) : Surroundings :=
  match e.refresher with
  | none => s
  | some r => (r.refresh force e.fetchTimeout s).2

/-- Downloads the geographic files that need it, or all, and rebuilds both collections; the error
is the first of theirs. -/
def rebuildGeo (e : Engine) (force : Bool) (s : Surroundings) :
    Except Error Unit × Engine × Surroundings :=
  let s := e.refreshGeo force s
  let (first, e) := e.rebuildWanted e.geoIpTags rebuildNetworks s.files
  let (second, e) := e.rebuildWanted e.geoSiteTags rebuildSites s.files
  (match first with
    | .error fault => .error fault
    | .ok () => second, e, s)

end TagRules.Engine
