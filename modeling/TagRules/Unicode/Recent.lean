import TagRules.Unicode.Derived

/-
  The code points that edition 17 assigned, by general category.

  The other tables stop at edition 16, and patterns with them, so that a class
  means what it meant when the pattern was written.  Text is read and printed by
  the newer edition, which also made a caseless letter of U+0295.
-/

namespace TagRules.Unicode

/-- The code points of each general category that edition 17 assigned. -/
def recentTable : List (String × String) :=
  [ ("lu",
    "A7CE A7D2 A7D4 16EA0-16EB8"),
    ("ll",
    "A7CF 16EBB-16ED3"),
    ("lm",
    "A7F1 10EC5 11DD9 16FF2-16FF3 1E6FF"),
    ("lo",
    "88F C5C CDC 10940-10959 10EC6-10EC7 11DB0-11DD8 11DDA-11DDB 187F8-187FF 18D09-18D1E
     18D80-18DF2 1E6C0-1E6DE 1E6E0-1E6E2 1E6E4-1E6E5 1E6E7-1E6ED 1E6F0-1E6F4 1E6FE 2B73A-2B73F
     2CEA2-2CEAD 323B0-33479"),
    ("mn",
    "1ACF-1ADD 1AE0-1AEB 10EFA-10EFB 11B60 11B62-11B64 11B66 1E6E3 1E6E6 1E6EE-1E6EF 1E6F5"),
    ("mc",
    "11B61 11B65 11B67"),
    ("nd",
    "11DE0-11DE9"),
    ("nl",
    "16FF4-16FF6"),
    ("po",
    "10ED0"),
    ("sm",
    "1CEF0 1F8D0-1F8D8"),
    ("sc",
    "20C1"),
    ("so",
    "2B96 FBC3-FBD2 FD90-FD91 FDC8-FDCE 10ED1-10ED8 1CCFA-1CCFC 1CEBA-1CED0 1CEE0-1CEEF 1F6D8
     1F777-1F77A 1FA54-1FA57 1FA8A 1FA8E 1FAC8 1FACD 1FAEA 1FAEF 1FBFA") ]

/-- The code points of the categories with the given codes, those of edition 17 among them. -/
def recentCategories (codes : List String) : CodeSet :=
  (categories codes).union
    (CodeSet.unionAll (codes.filterMap fun code =>
      (recentTable.lookup code).map CodeSet.ofTable))

/-- The code points that edition 17 assigned. -/
def recentlyAssigned : CodeSet :=
  CodeSet.unionAll (recentTable.map fun entry => CodeSet.ofTable entry.2)

/-- Code points that edition 17 leaves without a category. -/
def recentUnassigned : CodeSet := unassigned.sdiff recentlyAssigned

/-- The letters of edition 17, and the marks that count as letters. -/
def recentAlphabetic : CodeSet :=
  CodeSet.unionAll [alphabetic, recentCategories ["lu", "ll", "lm", "lo", "nl"],
    CodeSet.ofTable "10EFA-10EFB 11B60-11B67 1E6E3 1E6E6 1E6EE-1E6EF 1E6F5"]

def recentCased : CodeSet :=
  (CodeSet.unionAll [cased, recentCategories ["lu", "ll"], CodeSet.ofTable "A7F1"]).sdiff
    (CodeSet.ofTable "295")

def recentCaseIgnorable : CodeSet :=
  caseIgnorable.union (recentCategories ["mn", "lm"])

def recentGraphemeExtend : CodeSet := graphemeExtend.union (recentCategories ["mn"])

end TagRules.Unicode
