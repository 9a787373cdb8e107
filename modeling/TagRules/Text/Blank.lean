/-
  Blanks, and cutting text at them.

  Text is a list of characters here.  A blank is a character with the White_Space
  property of Unicode, which is wider than ASCII (U+0085, U+00A0, U+3000, ...) and
  leaves out the zero-width space and the byte order mark.  `trim` drops blanks at
  both ends and `words` cuts at them; `lines` cuts at line feeds, and a carriage
  return goes with the line feed it stands before.
-/

namespace TagRules.Text

/-- The characters with the White_Space property. -/
def isBlank (c : Char) : Bool :=
  ('\t' ≤ c && c ≤ '\r') || c == ' ' || c == '\u0085' || c == '\u00A0' || c == '\u1680' ||
    ('\u2000' ≤ c && c ≤ '\u200A') || c == '\u2028' || c == '\u2029' || c == '\u202F' ||
    c == '\u205F' || c == '\u3000'

def trimStart (cs : List Char) : List Char := cs.dropWhile isBlank

def trimEnd (cs : List Char) : List Char := (cs.reverse.dropWhile isBlank).reverse

def trim (cs : List Char) : List Char := trimEnd (trimStart cs)

def isAllBlank (cs : List Char) : Bool := cs.all isBlank

/-- The maximal runs of characters that are not blank. -/
def words : List Char → List (List Char)
  | [] => []
  | [c] => if isBlank c then [] else [[c]]
  | c :: d :: rest =>
    if isBlank c then words (d :: rest)
    else if isBlank d then [c] :: words (d :: rest)
    else match words (d :: rest) with
      | [] => [[c]]
      | w :: ws => (c :: w) :: ws

/-- The lines of the text.  A line feed ends a line, so that nothing follows a last one; a
carriage return directly before it belongs to neither line. -/
def lines : List Char → List (List Char)
  | [] => []
  | '\n' :: rest => [] :: lines rest
  | '\r' :: '\n' :: rest => [] :: lines rest
  | c :: rest =>
    match lines rest with
    | [] => [[c]]
    | line :: more => (c :: line) :: more

/-- The text before and after the first character that satisfies `p`. -/
def cut? (p : Char → Bool) (cs : List Char) : Option (List Char × List Char) :=
  match cs.dropWhile (fun c => !p c) with
  | [] => none
  | _ :: after => some (cs.takeWhile (fun c => !p c), after)

/-- The parts of the text between the separators. -/
def splitAll (separator : Char) : List Char → List (List Char)
  | [] => [[]]
  | c :: rest =>
    if c == separator then [] :: splitAll separator rest
    else match splitAll separator rest with
      | [] => [[c]]
      | part :: parts => (c :: part) :: parts

/-- Every way to cut the text at a separator, leftmost first. -/
def cuts (separator : Char) : List Char → List (List Char × List Char)
  | [] => []
  | c :: rest =>
    let later := (cuts separator rest).map fun (before, after) => (c :: before, after)
    if c == separator then ([], rest) :: later else later

def occursIn (part : List Char) : List Char → Bool
  | [] => part.isEmpty
  | c :: rest => part.isPrefixOf (c :: rest) || occursIn part rest

def dropFinalStop (cs : List Char) : List Char :=
  if cs.getLast? = some '.' then cs.dropLast else cs

end TagRules.Text
