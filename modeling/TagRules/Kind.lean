import TagRules.Text.Blank
import TagRules.Text.Case

/-
  The kinds of tables, of domain rules and of listings, with their names.

  Names are read without regard to case and to blanks at their ends.
-/

namespace TagRules

open Text

/-- The form in which the name of a kind is looked up. -/
def kindName (cs : List Char) : String := String.ofList (lower (trim cs))

/-- What the rules of a table are about: words in a name, domains, networks, or the addresses
that stand in for client networks. -/
inductive TableKind where
  | keyword
  | domain
  | network
  | client
  deriving DecidableEq, Repr, Inhabited

namespace TableKind

/-- Every kind, in the order in which tables are described and reloaded. -/
def all : List TableKind := [keyword, domain, network, client]

def name : TableKind → String
  | keyword => "keyword_table"
  | domain => "domain_table"
  | network => "netlist_table"
  | client => "ecs_table"

instance : ToString TableKind := ⟨name⟩

/-- The kind with this name, long or short. -/
def ofName? (name : String) : Option TableKind :=
  match name with
  | "keyword_table" | "keyword" => some keyword
  | "domain_table" | "domain" => some domain
  | "netlist_table" | "netlist" => some network
  | "ecs_table" | "ecs" => some client
  | _ => none

def ofChars? (cs : List Char) : Option TableKind := ofName? (kindName cs)

end TableKind

/-- How a domain rule matches: one name, a domain with all names in it, or by a pattern. -/
inductive MatchKind where
  | full
  | domain
  | pattern
  deriving DecidableEq, Repr, Inhabited

namespace MatchKind

def name : MatchKind → String
  | full => "full"
  | domain => "domain"
  | pattern => "regex"

instance : ToString MatchKind := ⟨name⟩

def ofChars? (cs : List Char) : Option MatchKind :=
  match kindName cs with
  | "full" => some full
  | "domain" | "suffix" => some domain
  | "regex" => some pattern
  | _ => none

end MatchKind

/-- The two geographic collections: networks by country and domains by site. -/
inductive GeoKind where
  | ip
  | site
  deriving DecidableEq, Repr, Inhabited

namespace GeoKind

def name : GeoKind → String
  | ip => "geoip"
  | site => "geosite"

/-- The name of a collection in messages. -/
def title : GeoKind → String
  | ip => "GeoIP"
  | site => "GeoSite"

end GeoKind

/-- What can be listed: the tables of a kind, or a geographic collection. -/
inductive ListTarget where
  | table (kind : TableKind)
  | geo (kind : GeoKind)
  deriving DecidableEq, Repr, Inhabited

namespace ListTarget

def name : ListTarget → String
  | table kind => kind.name
  | geo kind => kind.name

def ofChars? (cs : List Char) : Option ListTarget :=
  match kindName cs with
  | "geoip" => some (geo .ip)
  | "geosite" => some (geo .site)
  | name => (TableKind.ofName? name).map table

end ListTarget

/-- Which kinds of tables to reload. -/
structure KindSelection where
  domain : Bool
  network : Bool
  client : Bool
  keyword : Bool
  deriving DecidableEq, Repr, Inhabited

namespace KindSelection

def none : KindSelection := ⟨false, false, false, false⟩

def all : KindSelection := ⟨true, true, true, true⟩

def asks (r : KindSelection) : TableKind → Bool
  | .keyword => r.keyword
  | .domain => r.domain
  | .network => r.network
  | .client => r.client

/-- The kinds asked for. -/
def kinds (r : KindSelection) : List TableKind := TableKind.all.filter r.asks

end KindSelection

end TagRules
