import TagRules.Unicode.CodeSet
import TagRules.Unicode.Categories
import TagRules.Unicode.Properties
import TagRules.Unicode.Scripts

/-
  Sets of code points that are put together from the tables.

  A script is used by its own code points and by some that several scripts share.
  Most binary properties are a union of general categories and of a contribution
  that is listed on its own: letters with and without case, words, identifiers.
-/

namespace TagRules.Unicode

open CodeSet

def categories (codes : List String) : CodeSet :=
  unionAll (codes.filterMap fun code => (categoryTable.lookup code).map CodeSet.ofTable)

/-- Code points without a category: neither assigned nor surrogates. -/
def unassigned : CodeSet :=
  (unionAll [categories (categoryTable.map Prod.fst), span 0xD800 0xDFFF]).complement

/-! Scripts -/

/-- The long name of a script, given any of its names. -/
def scriptName (name : String) : String := (scriptAliases.lookup name).getD name

/-- The code points whose script property has this value. -/
def script? (name : String) : Option CodeSet :=
  (scriptTable.lookup (scriptName name)).map CodeSet.ofTable

/-- The code points a script uses, those it shares with others included.  What some script
shares is neither common nor inherited. -/
def sharedScript? (name : String) : Option CodeSet :=
  let long := scriptName name
  (script? long).map fun own =>
    if long == "common" || long == "inherited" then
      own.sdiff (unionAll (sharedTable.map fun entry => CodeSet.ofTable entry.2))
    else own.union (((sharedTable.lookup long).map CodeSet.ofTable).getD empty)

/-! Binary properties -/

/-- The code points of a property that is not put together from others. -/
def plainProperty (name : String) : CodeSet :=
  ((propertyTable.lookup name).map CodeSet.ofTable).getD empty

def lowercase : CodeSet := (categories ["ll"]).union (plainProperty "otherlowercase")

def uppercase : CodeSet := (categories ["lu"]).union (plainProperty "otheruppercase")

def cased : CodeSet := unionAll [lowercase, uppercase, categories ["lt"]]

/-- Code points that the search for a cased neighbour passes over. -/
def caseIgnorable : CodeSet :=
  (categories ["mn", "me", "cf", "lm", "sk"]).union
    (ofTable "27 2E 3A B7 387 55F 5F4 2018-2019 2024 2027 FE13 FE52 FE55 FF07 FF0E FF1A")

def alphabetic : CodeSet :=
  (categories ["lu", "ll", "lt", "lm", "lo", "nl"]).union (plainProperty "otheralphabetic")

def decimalNumber : CodeSet := categories ["nd"]

def whiteSpace : CodeSet := plainProperty "whitespace"

def graphemeExtend : CodeSet :=
  (categories ["mn", "me"]).union (plainProperty "othergraphemeextend")

/-- Code points of words: letters, marks, decimal digits, connectors and joiners. -/
def wordCharacters : CodeSet :=
  unionAll [alphabetic, categories ["mn", "mc", "me", "nd", "pc"], plainProperty "joincontrol"]

/-- Code points with syntactic use in patterns, which no identifier holds. -/
def patternReserved : CodeSet :=
  (plainProperty "patternsyntax").union (plainProperty "patternwhitespace")

def idStart : CodeSet :=
  (unionAll [categories ["lu", "ll", "lt", "lm", "lo", "nl"],
    plainProperty "otheridstart"]).sdiff patternReserved

def idContinue : CodeSet :=
  (unionAll [idStart, categories ["mn", "mc", "nd", "pc"],
    plainProperty "otheridcontinue"]).sdiff patternReserved

/-- Code points whose compatibility forms are no identifiers. -/
def compatibilityOnly : CodeSet :=
  ofTable "37A 309B-309C FC5E-FC63 FDFA-FDFB FE70 FE72 FE74 FE76 FE78 FE7A FE7C FE7E"

end TagRules.Unicode
