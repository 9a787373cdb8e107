import TagRules.Rules.Line
import TagRules.Text.Utf8

/-
  Rule sets: what a table holds.

  A set is built from lines for one tag (`ofLines`), which also says how many lines
  were skipped; a binding dropped because a broader network is bound counts as
  skipped.

  Names and bindings are sets without an order of their own.  They are listed in
  order of their text, but a listing that stops short of all entries of such a set
  does not say which it left out, only how many entries it visited.
-/

namespace TagRules

open Text Net

/-- The rules of a table, by its kind. -/
inductive RuleSet where
  | keyword (rules : Keywords)
  | domain (rules : DomainRules)
  | network (rules : NetworkRules)
  | client (bindings : ClientBindings)

/-- The entries of a set, or how many of them a short listing visited. -/
inductive Listing where
  | entries (texts : List String)
  | count (visited : Nat)
  deriving DecidableEq, Repr

namespace RuleSet

def empty : TableKind → RuleSet
  | .keyword => keyword Keywords.empty
  | .domain => domain DomainRules.empty
  | .network => network NetworkRules.empty
  | .client => client ClientBindings.empty

def kind : RuleSet → TableKind
  | keyword _ => .keyword
  | domain _ => .domain
  | network _ => .network
  | client _ => .client

/-- The set of the given lines for a tag, and how many of them were skipped. -/
def ofLines (kind : TableKind) (tag : String) (lines : List (List Char)) : RuleSet × Nat :=
  match kind with
  | .keyword =>
    let read := Line.readAll (Line.readKeyword tag) lines
    (keyword ((Line.entries read).foldl Keywords.add Keywords.empty), Line.skipped read)
  | .domain =>
    let read := Line.readAll (Line.readDomain tag) lines
    (domain ((Line.entries read).foldl DomainRules.insert DomainRules.empty), Line.skipped read)
  | .network =>
    let read := Line.readAll (Line.readNetwork tag) lines
    let filled := (Line.entries read).foldl NetworkRules.add NetworkRules.empty
    (network filled.sort.1, Line.skipped read)
  | .client =>
    let read := Line.readAll (Line.readClient tag) lines
    let filled := (Line.entries read).foldl ClientBindings.insert ClientBindings.empty
    let (bindings, nested) := filled.finish
    (client bindings, Line.skipped read + nested)

def ofBytes (kind : TableKind) (tag : String) (bytes : Bytes) : RuleSet × Nat :=
  ofLines kind tag (lines (ofUtf8Lossy bytes))

/-- Whether a name matches: keywords are looked for in it, networks are asked whether they cover
the network it names, and clients whether an address stands in for it. -/
def isMatch (set : RuleSet) (name : String) : Bool :=
  match set with
  | keyword rules => rules.isMatch name
  | domain rules => rules.matchesAny name
  | network rules => (Network.ofRule? name.toList).any rules.covers
  | client bindings => (bindings.resolve name).isSome

def covers (set : RuleSet) (n : Network) : Bool :=
  match set with
  | keyword _ | domain _ => false
  | network rules => rules.covers n
  | client bindings => bindings.covers n

def size : RuleSet → Nat
  | keyword rules => rules.size
  | domain rules => rules.size
  | network rules => rules.size
  | client bindings => bindings.size

def isEmpty (set : RuleSet) : Bool := set.size == 0

/-- How many entries of the set have no order of their own. -/
def unordered : RuleSet → Nat
  | keyword _ | network _ => 0
  | domain rules => rules.names.size
  | client bindings => bindings.size

def toList : RuleSet → List String
  | keyword rules => rules.toList
  | domain rules => rules.toList
  | network rules => rules.toList.map toString
  | client bindings => bindings.toList

end RuleSet

namespace Listing

/-- The listing that stops after `limit` of the entries; no limit is zero. -/
def upTo (limit : Nat) (unordered : Bool) (entries : List String) : Listing :=
  if limit = 0 || entries.length ≤ limit then .entries entries
  else if unordered then .count limit
  else .entries (entries.take limit)

/-- The listing with its entries in order of their text, of which a short one leaves out some. -/
def inOrder (limit : Nat) (entries : List String) : Listing :=
  if limit = 0 || entries.length ≤ limit then
    .entries (entries.mergeSort fun x y => compare x y != .gt)
  else .count limit

end Listing

namespace RuleSet

/-- The listing of the set that stops after `limit` entries. -/
def listing (set : RuleSet) (limit : Nat) : Listing :=
  .upTo limit (set.unordered != 0) set.toList

/-- How many entries a summary shows. -/
def summarySize : Nat := 10

/-- The kind and size of the set with its first entries.  Of entries without an order a summary
shows all or none. -/
def summary (set : RuleSet) : String :=
  let shown :=
    if summarySize < set.unordered then "*"
    else ",".intercalate (set.toList.take summarySize)
  let more := if summarySize < set.size then ",..." else ""
  set.kind.name ++ "(" ++ toString set.size ++ "):\x7b" ++ shown ++ more ++ "\x7d"

end RuleSet

end TagRules
