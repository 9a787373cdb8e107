import TagRules.Text.Blank

/-
  Words that a name may contain.
-/

namespace TagRules

/-- Words in the order they were added. -/
structure Keywords where
  words : Array String
  deriving DecidableEq, Repr

namespace Keywords

def empty : Keywords := ⟨#[]⟩

instance : Inhabited Keywords := ⟨empty⟩

/-- The keywords with one more; the empty word, which is in every name, is left out. -/
def add (keywords : Keywords) (word : String) : Keywords :=
  if word.isEmpty then keywords else ⟨keywords.words.push word⟩

def isMatch (keywords : Keywords) (name : String) : Bool :=
  keywords.words.any fun word => Text.occursIn word.toList name.toList

def size (keywords : Keywords) : Nat := keywords.words.size

def toList (keywords : Keywords) : List String := keywords.words.toList

end Keywords

end TagRules
