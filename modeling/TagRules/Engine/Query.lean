import TagRules.Engine.Basic

/-
  Queries.

  A query asks whether something matches under a tag.  One that matches is counted
  once, under the class of what matched; one that does not is not counted at all, and
  so are an unknown tag and a text that is no network.

  A name is looked for in the domain table, then in the keyword table, then in the
  geographic domain rules of its tag; `classOf?` is that rule.  `matchName` remembers
  what it found, and asks its memory first.
-/

namespace TagRules.Engine

open Net

/-- Whether the geographic networks of a tag in canonical form cover the network. -/
def geoCovers (e : Engine) (tag : String) (n : Network) : Bool :=
  (e.geoIp.get? tag).any fun set => set.covers n

/-- Whether the network table of a tag in canonical form covers the network. -/
def tableCovers (e : Engine) (tag : String) (n : Network) : Bool :=
  (e.tables.get? .network tag).any fun t => t.covers n

def matchGeoNetwork (e : Engine) (tag : String) (n : Network) : Bool × Engine :=
  let tag := Tag.normalize tag
  e.countIf (e.geoCovers tag n) .network tag

def matchGeoAddress (e : Engine) (tag : String) (a : Address) : Bool × Engine :=
  e.matchGeoNetwork tag (Network.host a)

def matchTableNet (e : Engine) (tag : String) (n : Network) : Bool × Engine :=
  let tag := Tag.normalize tag
  e.countIf (e.tableCovers tag n) .network tag

/-- Whether the network table or the geographic networks of a tag cover the network. -/
def matchNet (e : Engine) (tag : String) (n : Network) : Bool × Engine :=
  let tag := Tag.normalize tag
  e.countIf (e.tableCovers tag n || e.geoCovers tag n) .network tag

/-- A query about a network, for the network that a text names. -/
def forNetText (e : Engine) (query : Engine → String → Network → Bool × Engine)
    (tag text : String) : Bool × Engine :=
  match Network.ofRule? text.toList with
  | some n => query e tag n
  | none => (false, e)

def matchTableNetText (e : Engine) (tag text : String) : Bool × Engine :=
  e.forNetText matchTableNet tag text

def matchNetText (e : Engine) (tag text : String) : Bool × Engine :=
  e.forNetText matchNet tag text

def matchSite (e : Engine) (kind : MatchKind) (tag name : String) : Bool × Engine :=
  let tag := Tag.normalize tag
  e.countIf ((e.geoSite.get? tag).any fun set => set.matchesKind kind name) .domain tag

def matchKeyword (e : Engine) (tag name : String) : Bool × Engine :=
  let tag := Tag.normalize tag
  e.countIf ((e.tables.get? .keyword tag).any fun t => t.isMatch name) .keyword tag

/-- The address that stands in for a client in the rules of a table, if they are about clients. -/
def resolveIn (rules : RuleSet) (client : String) : Option Address :=
  match rules with
  | .client bindings => bindings.resolve client
  | .keyword _ | .domain _ | .network _ => none

def resolveClient (e : Engine) (tag client : String) : Option Address × Engine :=
  match (e.table? .client tag).bind fun t => resolveIn t.rules client with
  | some a => (some a, e.count .metrics clientMetric)
  | none => (none, e)

/-- The class of rules that a name matches under a tag in canonical form: domain rules of the table,
keywords, geographic domain rules, the first that has one. -/
def classOf? (e : Engine) (tag name : String) : Option CountClass :=
  if (e.tables.get? .domain tag).any fun t => t.isMatch name then some .domain
  else if (e.tables.get? .keyword tag).any fun t => t.isMatch name then some .keyword
  else if (e.geoSite.get? tag).any fun set => set.matchesAny name then some .domain
  else none

/-- Looks a name up in the memory. -/
def remembered (e : Engine) (now : Nat) (tag name : String) : Option CountClass × Engine :=
  let (found, cache) := e.cache.get now tag name
  (found, { e with cache })

def remember (e : Engine) (now : Nat) (tag name : String) (cls : CountClass) : Engine :=
  { e with cache := e.cache.insert now tag name cls }

/-- Whether a name matches under a tag in canonical form. -/
def matchCanonical (e : Engine) (now : Nat) (tag name : String) : Bool × Engine :=
  match e.remembered now tag name with
  | (some cls, e) => (true, e.count cls tag)
  | (none, e) =>
    match e.classOf? tag name with
    | some cls => (true, (e.remember now tag name cls).count cls tag)
    | none => (false, e)

def matchName (e : Engine) (now : Nat) (tag name : String) : Bool × Engine :=
  e.matchCanonical now (Tag.normalize tag) name

/-- The name of the counter for names that do not match under a tag. -/
def missName (tag : String) : String := "!" ++ tag

/-- Whether a name matches under some of the tags, asked in order up to the first.  In a reverse
query every tag that does not match is counted. -/
def matchFirst (e : Engine) (now : Nat) (name : String) (reverse : Bool) :
    List String → Bool × Engine
  | [] => (false, e)
  | tag :: rest =>
    let tag := Tag.normalize tag
    match e.matchCanonical now tag name with
    | (true, e) => (true, e)
    | (false, e) =>
      let e := if reverse then e.count .domain (missName tag) else e
      e.matchFirst now name reverse rest

/-- Whether a name matches under some of the tags or, in a reverse query, under none.  Without tags
the answer is no. -/
def matchTags (e : Engine) (now : Nat) (tags : List String) (name : String) (reverse : Bool) :
    Bool × Engine :=
  if tags.isEmpty then (false, e)
  else
    let (found, e) := e.matchFirst now name reverse tags
    (found != reverse, e)

end TagRules.Engine
