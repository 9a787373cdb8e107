import Std.Data.ExtTreeMap

/-
  Geographic sets by code.

  New sets take the place of those of the same codes and leave the others alone.
-/

namespace TagRules

/-- Sets by code. -/
structure CodedSets (α : Type) where
  byCode : Std.ExtTreeMap String α

namespace CodedSets

variable {α : Type}

def empty : CodedSets α := ⟨∅⟩

instance : Inhabited (CodedSets α) := ⟨empty⟩

/-- The set of a code in canonical form. -/
def get? (sets : CodedSets α) (code : String) : Option α := sets.byCode[code]?

/-- Puts new sets in; also says how many there are. -/
def replace (sets : CodedSets α) (fresh : Std.ExtTreeMap String α) : CodedSets α × Nat :=
  (⟨fresh.toList.foldl (fun byCode (code, set) => byCode.insert code set) sets.byCode⟩, fresh.size)

def codes (sets : CodedSets α) : List String := sets.byCode.keys

def size (sets : CodedSets α) : Nat := sets.byCode.size

end CodedSets

end TagRules
