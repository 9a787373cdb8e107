import Std.Data.ExtTreeMap
import TagRules.Table

/-
  Tables by tag.

  An index has one table for a tag, in the order of tags.
-/

namespace TagRules

/-- Tables by tag. -/
structure TableIndex where
  byTag : Std.ExtTreeMap String Table

namespace TableIndex

def empty : TableIndex := ⟨∅⟩

instance : Inhabited TableIndex := ⟨empty⟩

/-- The table of a tag in canonical form. -/
def get? (index : TableIndex) (tag : String) : Option Table := index.byTag[tag]?

/-- Puts a table under its tag, in place of the one that was there. -/
def insert (index : TableIndex) (t : Table) : TableIndex := ⟨index.byTag.insert t.tag t⟩

/-- The tables in order of their tags. -/
def toList (index : TableIndex) : List Table := index.byTag.toList.map Prod.snd

def tags (index : TableIndex) : List String := index.byTag.keys

def size (index : TableIndex) : Nat := index.byTag.size

end TableIndex

/-- An index for every kind of tables. -/
structure TableIndexes where
  keyword : TableIndex
  domain : TableIndex
  network : TableIndex
  client : TableIndex
  deriving Inhabited

namespace TableIndexes

def empty : TableIndexes := ⟨.empty, .empty, .empty, .empty⟩

def ofKind (x : TableIndexes) : TableKind → TableIndex
  | .keyword => x.keyword
  | .domain => x.domain
  | .network => x.network
  | .client => x.client

def withKind (x : TableIndexes) (kind : TableKind) (index : TableIndex) : TableIndexes :=
  match kind with
  | .keyword => { x with keyword := index }
  | .domain => { x with domain := index }
  | .network => { x with network := index }
  | .client => { x with client := index }

/-- The table of a kind and a tag in canonical form. -/
def get? (x : TableIndexes) (kind : TableKind) (tag : String) : Option Table :=
  (x.ofKind kind).get? tag

/-- Puts a table into the index of a kind. -/
def insert (x : TableIndexes) (kind : TableKind) (t : Table) : TableIndexes :=
  x.withKind kind ((x.ofKind kind).insert t)

/-- The tables of some kinds, kind by kind. -/
def tables (x : TableIndexes) (kinds : List TableKind) : List Table :=
  kinds.flatMap fun kind => (x.ofKind kind).toList

end TableIndexes

end TagRules
