import TagRules.Unicode.Derived

/-
  Where characters, words and sentences end.

  Three properties sort the code points by what they do at a boundary: between
  two characters a reader sees, between words, and between sentences.  A value is
  the set of code points that play one part there.  What plays no part has no
  value, and names are given without separators in lower case.
-/

namespace TagRules.Unicode

open CodeSet

/-- The line and paragraph separators and the controls that end a line. -/
def lineEnds : CodeSet := ofTable "A-D 85 2028-2029"

/-- Marks and modifiers that stay with the character before them. -/
def attached : CodeSet := graphemeExtend.union (plainProperty "emojimodifier")

/-- Spacing marks that do not stay with the character before them. -/
def looseMarks : CodeSet :=
  ofTable "102B-102C 1038 1062-1064 1067-106D 1083 1087-108C 108F 109A-109C 1A61 1A63-1A64 AA7B
    AA7D 11720-11721"

/-- Syllables of a consonant and a vowel, without a final consonant. -/
def openSyllables : CodeSet := ofTable "AC00-D788/28"

/-- Formats that stand before a number: they count as its first digit. -/
def numberSigns : CodeSet := (plainProperty "prependedconcatenationmark").sdiff (ofTable "70F")

/-- The code points with a value of the boundary between characters. -/
def characterBreak? (value : String) : Option CodeSet :=
  match value with
  | "cr" => some (ofTable "D")
  | "lf" => some (ofTable "A")
  | "cn" | "control" =>
    let shown := unionAll [plainProperty "prependedconcatenationmark", attached,
      ofTable "A D 200D"]
    some (((categories ["zl", "zp", "cc", "cf"]).union
      (unassigned.inter (plainProperty "defaultignorablecodepoint"))).sdiff shown)
  | "ex" | "extend" => some attached
  | "zwj" => some (ofTable "200D")
  | "ri" | "regionalindicator" => some (plainProperty "regionalindicator")
  | "pp" | "prepend" =>
    some ((plainProperty "prependedconcatenationmark").union
      (ofTable "D4E 111C2-111C3 113D1 1193F 11941 11A3A 11A84-11A89 11D46 11F02"))
  | "sm" | "spacingmark" =>
    some (((categories ["mc"]).sdiff (attached.union looseMarks)).union (ofTable "E33 EB3"))
  | "l" => some (ofTable "1100-115F A960-A97C")
  | "v" => some (ofTable "1160-11A7 D7B0-D7C6 16D63 16D67-16D6A")
  | "t" => some (ofTable "11A8-11FF D7CB-D7FB")
  | "lv" => some openSyllables
  | "lvt" => some ((span 0xAC00 0xD7A3).sdiff openSyllables)
  | _ => none

/-- Marks that stay with the word or sentence before them. -/
def wordMarks : CodeSet := attached.union (categories ["mc"])

/-- Letters of the syllabary that words are written in without blanks. -/
def katakana : CodeSet :=
  ((script? "katakana").getD empty).union (ofTable "3031-3035 309B-309C 30A0 30FC FF70")

def hebrewLetters : CodeSet := ((script? "hebrew").getD empty).inter (categories ["lo"])

/-- Letters of scripts whose words no blank divides. -/
def undividedLetters : CodeSet :=
  unionAll (["hiragana", "thai", "lao", "myanmar", "khmer", "taile", "newtailue", "taitham",
    "taiviet", "ahom"].filterMap script?)

/-- The letters of words that blanks divide, with some signs between letters. -/
def wordLetters : CodeSet :=
  let signs := ofTable "B8 2C2-2C5 2D2-2D7 2DE-2DF 2E5-2EB 2ED 2EF-2FF 55A-55C 55E 58A 5F3 70F
    A708-A716 A720-A721 A789-A78A AB5B"
  (alphabetic.union signs).sdiff (unionAll [plainProperty "ideographic", katakana, hebrewLetters,
    undividedLetters, wordMarks])

/-- The code points with a value of the boundary between words. -/
def wordBreak? (value : String) : Option CodeSet :=
  match value with
  | "cr" => some (ofTable "D")
  | "lf" => some (ofTable "A")
  | "nl" | "newline" => some (lineEnds.sdiff (ofTable "A D"))
  | "dq" | "doublequote" => some (ofTable "22")
  | "sq" | "singlequote" => some (ofTable "27")
  | "extend" => some wordMarks
  | "zwj" => some (ofTable "200D")
  | "fo" | "format" =>
    some ((categories ["cf"]).sdiff (unionAll [numberSigns, wordMarks,
      ofTable "70F 200B 200D"]))
  | "ri" | "regionalindicator" => some (plainProperty "regionalindicator")
  | "hl" | "hebrewletter" => some hebrewLetters
  | "ka" | "katakana" => some katakana
  | "le" | "aletter" => some wordLetters
  | "mb" | "midnumlet" => some (ofTable "2E 2018-2019 2024 FE52 FF07 FF0E")
  | "ml" | "midletter" => some (ofTable "3A B7 387 55F 5F4 2027 FE13 FE55 FF1A")
  | "mn" | "midnum" =>
    some (ofTable "2C 3B 37E 589 60C-60D 66C 7F8 2044 FE50 FE54 FF0C FF1B")
  | "nu" | "numeric" =>
    some (unionAll [categories ["nd"], numberSigns, ofTable "66B 19DA"])
  | "ex" | "extendnumlet" => some ((categories ["pc"]).union (ofTable "202F"))
  | "wsegspace" => some (ofTable "20 1680 2000-2006 2008-200A 205F 3000")
  | _ => none

/-- Small letters with capitals a sentence may begin with. -/
def sentenceLower : CodeSet :=
  lowercase.sdiff (graphemeExtend.union (ofTable "10D0-10FA 10FD-10FF"))

/-- Letters a sentence may begin with. -/
def sentenceUpper : CodeSet :=
  (uppercase.union (categories ["lt"])).sdiff (ofTable "1C90-1CBA 1CBD-1CBF")

/-- Full stops that may also end a shortened word. -/
def fullStops : CodeSet := ofTable "2E 2024 FE52 FF0E"

/-- Marks that stay with the sentence before them. -/
def sentenceMarks : CodeSet :=
  (graphemeExtend.union (categories ["mc"])).union (ofTable "200D")

/-- The code points with a value of the boundary between sentences. -/
def sentenceBreak? (value : String) : Option CodeSet :=
  match value with
  | "cr" => some (ofTable "D")
  | "lf" => some (ofTable "A")
  | "se" | "sep" => some (ofTable "85 2028-2029")
  | "sp" => some (whiteSpace.sdiff (ofTable "A D 85 2028-2029"))
  | "ex" | "extend" => some sentenceMarks
  | "fo" | "format" => some ((categories ["cf"]).sdiff (numberSigns.union sentenceMarks))
  | "lo" | "lower" => some sentenceLower
  | "up" | "upper" => some sentenceUpper
  | "le" | "oletter" =>
    some ((alphabetic.union (ofTable "5F3")).sdiff
      (unionAll [sentenceLower, sentenceUpper, sentenceMarks]))
  | "nu" | "numeric" =>
    some (unionAll [categories ["nd"], numberSigns, ofTable "66B-66C 19DA"])
  | "at" | "aterm" => some fullStops
  | "st" | "sterm" => some ((plainProperty "sentenceterminal").sdiff fullStops)
  | "sc" | "scontinue" =>
    some (ofTable "2C-2D 3A-3B 37E 55D 60C-60D 7F8 1802 1808 2013-2014 3001 FE10-FE11 FE13-FE14
      FE31-FE32 FE50-FE51 FE54-FE55 FE58 FE63 FF0C-FF0D FF1A-FF1B FF64")
  | "cl" | "close" =>
    some ((categories ["ps", "pe", "pi", "pf"]).union
      (ofTable "22 27 275B-2760 2E00-2E01 2E06-2E08 2E0B 1F676-1F678"))
  | _ => none

end TagRules.Unicode
