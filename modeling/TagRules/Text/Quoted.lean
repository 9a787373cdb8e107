import TagRules.Text.Digits
import TagRules.Unicode.Recent

/-
  Text between double quotes, for messages.

  Quotes and backslashes are escaped, the usual controls have short escapes, and a
  character that shows nothing by itself (a control, an unassigned code point, a
  mark that would attach to the quote) is written by its code point.
-/

namespace TagRules.Text

open Unicode

/-- Code points that leave no mark of their own: controls, formats, private and unassigned
code points, letters that fill a gap, and every separator but the plain blank. -/
def unseen : CodeSet :=
  (CodeSet.unionAll [recentUnassigned, categories ["cc", "cf", "co", "zl", "zp", "zs"],
    plainProperty "defaultignorablecodepoint"]).sdiff (CodeSet.single ' ')

/-- Code points that would attach to the quote before them.  The two halfwidth voice marks are
letters with a width of their own. -/
def attaching : CodeSet := recentGraphemeExtend.sdiff (CodeSet.ofTable "FF9E-FF9F")

/-- Whether a character is written as it is. -/
def isPlain (c : Char) : Bool :=
  !(attaching.contains c.toNat) && !(unseen.contains c.toNat)

/-- A character between quotes. -/
def escape (c : Char) : List Char :=
  if c = '\x00' then ['\\', '0']
  else if c = '\t' then ['\\', 't']
  else if c = '\r' then ['\\', 'r']
  else if c = '\n' then ['\\', 'n']
  else if c = '"' || c = '\\' then ['\\', c]
  else if isPlain c then [c]
  else ['\\', 'u', '{'] ++ digits 16 c.toNat ++ ['}']

/-- The text between quotes. -/
def quoted (s : String) : String :=
  String.ofList ('"' :: s.toList.flatMap escape ++ ['"'])

def quotedList (texts : List String) : String :=
  "[" ++ ", ".intercalate (texts.map quoted) ++ "]"

end TagRules.Text
