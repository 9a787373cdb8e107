import TagRules.Unicode.CaseRuns
import TagRules.Unicode.Recent

/-
  Letters that differ in case alone.

  Two letters are the same but for case when a chain of the letter-to-letter case
  mappings joins them, with three pairs added that share a capital form of several
  letters, and the dotless i left out, whose capital is the plain I.  No chain is
  longer than four letters.
-/

namespace TagRules.Unicode

/-- The pairs of letters of which one is a case form of the other, as of edition 16. -/
def casePairs : List (Nat × Nat) :=
  let recent := recentlyAssigned
  ((capitalRuns ++ smallRuns).flatMap fun run => run.members.map fun c => (c, run.apply c)).filter
      (fun (a, b) => a != 0x131 && !(recent.contains a) && !(recent.contains b)) ++
    [(0x1FD3, 0x390), (0x1FE3, 0x3B0), (0xFB05, 0xFB06)]

/-- The case forms of the members of a set. -/
def caseNeighbours (set : CodeSet) : List Span :=
  casePairs.flatMap fun (a, b) =>
    (if set.contains a then [⟨b, b⟩] else []) ++ (if set.contains b then [⟨a, a⟩] else [])

/-- The set with the case forms of its members. -/
def withCaseForms (set : CodeSet) : CodeSet :=
  CodeSet.ofSpans (set.spans ++ caseNeighbours set)

/-- The set with every letter that differs from a member in case alone. -/
def foldCase (set : CodeSet) : CodeSet :=
  withCaseForms (withCaseForms (withCaseForms set))

/-- The set with the other case of the ASCII letters in it. -/
def foldCaseAscii (set : CodeSet) : CodeSet :=
  CodeSet.ofSpans (set.spans ++ (CaseRun.members ⟨0x61, 0x7A, 1, 0x41⟩).flatMap fun c =>
    (if set.contains c then [⟨c - 32, c - 32⟩] else []) ++
      (if set.contains (c - 32) then [⟨c, c⟩] else []))

end TagRules.Unicode
