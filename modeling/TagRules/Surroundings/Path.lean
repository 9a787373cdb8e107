import TagRules.Surroundings.Fault
import TagRules.Text.Blank

/-
  Paths, as they are written.

  A path is cut at its slashes into steps; slashes next to one another count as one.
  A path that ends with a slash names a directory.  Which place a path leads to is
  for the file tree to say; here are only the things that its text decides.
-/

namespace TagRules

open Text

/-- The steps of a path, outermost first. -/
structure Path where
  isAbsolute : Bool
  steps : List String
  endsWithSlash : Bool
  size : Nat
  deriving DecidableEq, Repr

namespace Path

def ofString (s : String) : Path :=
  let cs := s.toList
  { isAbsolute := cs.head? == some '/'
    steps := ((splitAll '/' cs).filter fun step => !step.isEmpty).map String.ofList
    endsWithSlash := cs.getLast? == some '/'
    size := s.utf8ByteSize }

/-- The path of some steps, with a slash before every step or, if it is relative, between them. -/
def ofSteps (isAbsolute : Bool) (steps : List String) : Path :=
  let size := steps.foldl (fun n step => n + step.utf8ByteSize + 1) 0
  { isAbsolute
    steps
    endsWithSlash := false
    size := if isAbsolute then size else size - 1 }

/-- The size in bytes from which a path is refused. -/
def sizeLimit : Nat := 4096

/-- The size in bytes up to which a step is accepted. -/
def stepLimit : Nat := 255

/-- What is wrong with the text of a path. -/
def fault? (p : Path) : Option FileFault :=
  if p.steps.any fun step => step.toList.contains '\x00' then some .nulInName
  else if p.steps.isEmpty && !p.isAbsolute then some .missing
  else if sizeLimit ≤ p.size then some .nameTooLong
  else none

/-- The steps without those that stay where they are, except for a first one. -/
def significantSteps (p : Path) : List String :=
  match p.steps with
  | [] => []
  | first :: rest =>
    let rest := rest.filter (· != ".")
    if first == "." && p.isAbsolute then rest else first :: rest

/-- The path without its last step, if it has one. -/
def parent? (p : Path) : Option Path :=
  match p.significantSteps with
  | [] => none
  | steps@(_ :: _) => some (ofSteps p.isAbsolute steps.dropLast)

end Path

end TagRules
