import Std.Data.ExtTreeSet
import TagRules.Kind
import TagRules.Pattern.Reader

/-
  Domain rules.

  Rules that name one name and rules that name a domain are kept in one set of
  names: a name matches in full if it is in the set, and by suffix if one of its
  label suffixes is (`labelSuffixes`).  Patterns are kept in the order they were
  added.  A query may end with the full stop of the root, which rules never have.
-/

namespace TagRules

open Text

/-- Names and patterns. -/
structure DomainRules where
  names : Std.ExtTreeSet String
  patterns : Array Pattern

namespace DomainRules

def empty : DomainRules := ⟨∅, #[]⟩

instance : Inhabited DomainRules := ⟨empty⟩

/-- A rule ready to be added. -/
inductive Entry where
  | name (name : String)
  | pattern (p : Pattern)
  deriving Repr

/-- The rule of a kind with a value, unless the value is to be a pattern and is none. -/
def Entry.ofKind? (kind : MatchKind) (value : String) : Option Entry :=
  match kind with
  | .full | .domain => some (.name value)
  | .pattern => (Pattern.ofString? value).map .pattern

def insert (rules : DomainRules) : Entry → DomainRules
  | .name name => { rules with names := rules.names.insert name }
  | .pattern p => { rules with patterns := rules.patterns.push p }

/-- The rules with that of a kind and a value, if it is one. -/
def add? (rules : DomainRules) (kind : MatchKind) (value : String) : Option DomainRules :=
  (Entry.ofKind? kind value).map rules.insert

/-- The suffixes of a name that begin at a label, the shortest first: of `a.b.c` these are
`c`, `b.c` and `a.b.c`. -/
def labelSuffixes (name : List Char) : List (List Char) :=
  ((cuts '.' name).map Prod.snd).reverse ++ [name]

/-- The name a query asks for: the query without the full stop of the root. -/
def queried (name : String) : List Char := dropFinalStop name.toList

/-- Whether there is a rule for the name itself. -/
def matchesFull (rules : DomainRules) (name : String) : Bool :=
  rules.names.contains (String.ofList (queried name))

/-- Whether there is a rule for the name or for a domain it is in. -/
def matchesSuffix (rules : DomainRules) (name : String) : Bool :=
  !rules.names.isEmpty && !name.isEmpty &&
    (labelSuffixes (queried name)).any fun suffix => rules.names.contains (String.ofList suffix)

def matchesPattern (rules : DomainRules) (name : String) : Bool :=
  rules.patterns.any fun p => p.isMatch (queried name)

def matchesAny (rules : DomainRules) (name : String) : Bool :=
  rules.matchesFull name || rules.matchesSuffix name || rules.matchesPattern name

/-- Whether the name matches in the way of a kind. -/
def matchesKind (rules : DomainRules) (kind : MatchKind) (name : String) : Bool :=
  match kind with
  | .full => rules.matchesFull name
  | .domain => rules.matchesSuffix name
  | .pattern => rules.matchesPattern name

def size (rules : DomainRules) : Nat := rules.names.size + rules.patterns.size

def toList (rules : DomainRules) : List String :=
  rules.names.toList ++ rules.patterns.toList.map Pattern.source

end DomainRules

end TagRules
