import TagRules.Unicode.CaseRuns
import TagRules.Unicode.Recent

/-
  Capital and small letters.

  `upper` and `lower` are the full case mappings of Unicode, which may change the
  number of characters: one letter can have two or three capitals.  The mapping
  of a letter does not depend on its neighbours, but for the capital sigma, whose
  small form is another one at the end of a word.
-/

namespace TagRules.Text

open Unicode

/-- The image of `c` under the first run that covers it. -/
def throughRuns (runs : List CaseRun) (c : Char) : Char :=
  match runs.find? (·.covers c.toNat) with
  | some run => Char.ofNat (run.apply c.toNat)
  | none => c

def capital (c : Char) : List Char :=
  match longCapitals.lookup c.toNat with
  | some codes => codes.map Char.ofNat
  | none => [throughRuns capitalRuns c]

def upper (cs : List Char) : List Char := cs.flatMap capital

/-- The small form of a character, the capital sigma's being that within a word. -/
def small (c : Char) : List Char :=
  if c = '\u0130' then ['i', '\u0307'] else [throughRuns smallRuns c]

/-- Whether the first character that matters for case has one. -/
def meetsCased (cs : List Char) : Bool :=
  match cs.dropWhile (fun c => recentCaseIgnorable.contains c.toNat) with
  | [] => false
  | c :: _ => recentCased.contains c.toNat

/-- The text in small letters, given what stands before it, nearest character first. -/
def lowerAfter (before : List Char) : List Char → List Char
  | [] => []
  | c :: rest =>
    let form :=
      if c = 'Σ' then [if meetsCased before && !meetsCased rest then 'ς' else 'σ'] else small c
    form ++ lowerAfter (c :: before) rest

def lower (cs : List Char) : List Char := lowerAfter [] cs

/-- The text with the capital letters of ASCII made small, and nothing else. -/
def lowerAscii (cs : List Char) : List Char := cs.map Char.toLower

end TagRules.Text
