import TagRules.Text.Blank
import TagRules.Text.Case

/-
  Tags: the names of rule sets.

  Tags that differ in case or in blanks at their ends are one tag.  `normalize`
  gives its canonical form, and every table, set, cache row and counter is kept
  under that form.
-/

namespace TagRules.Tag

open Text

def canonical (tag : List Char) : List Char := upper (trim tag)

/-- The canonical form of a tag: without blanks at its ends, in capital letters. -/
def normalize (tag : String) : String := String.ofList (canonical tag.toList)

/-- Whether the text is a spelling of the tag, which is given in canonical form. -/
def spells (tag : String) (text : List Char) : Bool := String.ofList (canonical text) == tag

end TagRules.Tag
