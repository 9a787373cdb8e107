import Std.Data.ExtTreeMap
import TagRules.Geo.Message
import TagRules.Rules.NetworkRules
import TagRules.Rules.DomainRules
import TagRules.Surroundings
import TagRules.Tag

/-
  Geographic catalogs: networks and domain rules by code.

  A catalog is asked for the entries of some codes, or of all, and anything that can
  answer is one.  Three are given here: one kept in two files, which are read anew every
  time, one in memory, and one that has nothing.  These compare codes in the canonical
  form of tags, and of several entries with one code the last counts.
-/

namespace TagRules

open Text Net

namespace Geo

/-- The networks of each code. -/
abbrev Networks := Std.ExtTreeMap String (List Network)

/-- A domain rule of a catalog. -/
structure SiteRule where
  kind : MatchKind
  value : String
  deriving DecidableEq, Repr

/-- The domain rules of each code. -/
abbrev Domains := Std.ExtTreeMap String (List SiteRule)

/-- The address that some bytes are, by their number. -/
def address? (bytes : Bytes) : Option Address :=
  let number := Address.ofParts 8 (bytes.map UInt8.toNat)
  if bytes.length = 4 then some (Address.wrap .v4 number)
  else if bytes.length = 16 then some (Address.wrap .v6 number)
  else none

/-- The network of a record, if address and length fit. -/
def NetworkRecord.network? (r : NetworkRecord) : Option Network := do
  let a ← address? r.address
  (Network.ofLength? a r.length.toNat).map Network.truncate

/-- The kind of domain rules with a number.  Zero is for words in a name, which are no domain
rules. -/
def domainKind? (number : Int32) : Option MatchKind :=
  if number = 1 then some .pattern
  else if number = 2 then some .domain
  else if number = 3 then some .full
  else none

/-- The rule of a record, if it is one: in small letters, unless it is a pattern. -/
def DomainRecord.rule? (r : DomainRecord) : Option SiteRule :=
  (domainKind? r.kind).map fun kind =>
    ⟨kind, match kind with
      | .pattern => r.value
      | .full | .domain => String.ofList (lower r.value.toList)⟩

def NetworkEntry.nets (e : NetworkEntry) : List Network :=
  e.networks.filterMap NetworkRecord.network?

def DomainEntry.rules (e : DomainEntry) : List SiteRule :=
  e.domains.filterMap DomainRecord.rule?

/-- Whether a code is asked for; no tags ask for every code. -/
def isWanted (tags : List String) (code : String) : Bool :=
  tags.isEmpty || (tags.map Tag.normalize).contains code

/-- What the entries that are asked for say of their codes, in order, the last one counting. -/
def collect {α β : Type} (code : α → String) (value : α → β) (tags : List String)
    (entries : List α) : Std.ExtTreeMap String β :=
  entries.foldl
    (fun found e =>
      let code := Tag.normalize (code e)
      if isWanted tags code then found.insert code (value e) else found)
    ∅

def decodeNetworks (tags : List String) (bytes : Bytes) : Option Networks :=
  (readNetworkFile bytes).map (collect NetworkEntry.code NetworkEntry.nets tags)

def decodeDomains (tags : List String) (bytes : Bytes) : Option Domains :=
  (readDomainFile bytes).map (collect DomainEntry.code DomainEntry.rules tags)

/-- Whether some bytes are a file of a collection. -/
def isDecodable (kind : GeoKind) (bytes : Bytes) : Bool :=
  match kind with
  | .ip => (readNetworkFile bytes).isSome
  | .site => (readDomainFile bytes).isSome

def decodeFile {α : Type} (kind : GeoKind) (files : FileTree) (path : String)
    (decode : Bytes → Option α) : Except CatalogFault α :=
  match files.read path with
  | .error fault => .error (.unreadable path fault)
  | .ok bytes =>
    match decode bytes with
    | none => .error (.undecodable kind)
    | some value => .ok value

/-- Checks that the file at a path is one of a collection. -/
def verify (kind : GeoKind) (files : FileTree) (path : String) : Except CatalogFault Unit :=
  decodeFile kind files path fun bytes => if isDecodable kind bytes then some () else none

end Geo

/-- Where networks and domain rules by code come from: what there is, with some files, for the
codes asked for. -/
structure Catalog where
  networksFor : FileTree → List String → Except Error Geo.Networks
  domainsFor : FileTree → List String → Except Error Geo.Domains

namespace Catalog

open Geo

def nothing : Catalog where
  networksFor _ tags := .error (.catalog (.unavailable .ip tags))
  domainsFor _ tags := .error (.catalog (.unavailable .site tags))

instance : Inhabited Catalog := ⟨nothing⟩

/-- What a file of a collection has, if there is a path for it. -/
def loadFile {α : Type} (kind : GeoKind) (path : Option String) (decode : Bytes → Option α)
    (files : FileTree) : Except Error α :=
  match path with
  | none => .error (.catalog (.noPath kind))
  | some path => (decodeFile kind files path decode).mapError .catalog

/-- The catalog kept in two files. -/
def files (ipPath sitePath : Option String) : Catalog where
  networksFor files tags := loadFile .ip ipPath (decodeNetworks tags) files
  domainsFor files tags := loadFile .site sitePath (decodeDomains tags) files

def select {α : Type} (tags : List String) (entries : Std.ExtTreeMap String α) :
    Std.ExtTreeMap String α :=
  if tags.isEmpty then entries
  else tags.foldl
    (fun found tag =>
      let code := Tag.normalize tag
      match entries[code]? with
      | some value => found.insert code value
      | none => found)
    ∅

/-- The catalog in memory. -/
def memory (networks : Networks) (domains : Domains) : Catalog where
  networksFor _ tags := .ok (select tags networks)
  domainsFor _ tags := .ok (select tags domains)

/-- Entries added one after another, each under the canonical form of its code. -/
def addAll {α : Type} (entries : List (String × α)) : Std.ExtTreeMap String α :=
  entries.foldl (fun found (code, value) => found.insert (Tag.normalize code) value) ∅

/-- The catalog in memory with some entries, added in order. -/
def ofEntries (networks : List (String × List Network)) (domains : List (String × List SiteRule)) :
    Catalog :=
  .memory (addAll networks) (addAll domains)

end Catalog

end TagRules
