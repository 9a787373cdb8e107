import TagRules.Error
import TagRules.Rules.Line

/-
  Declarations of tables.

  A declaration names a kind, tags and the text of a source; every tag gets a table of
  its own.  In a manifest a declaration is a line of three fields with blanks between
  them,

    kind TAG,TAG,... source

  of which the last may have blanks.  Text after a number sign is a comment, and a line
  with nothing else declares nothing.  `ofManifest` stops at the first line that is
  none of these, and `ofManifestLenient` goes on without it.
-/

namespace TagRules

open Text

/-- Tables of one kind that share a source. -/
structure Declaration where
  kind : TableKind
  tags : List String
  source : String
  deriving DecidableEq, Repr

namespace Declaration

/-- Whether no tag has anything but blanks. -/
def isTagless (d : Declaration) : Bool := d.tags.all fun tag => isAllBlank tag.toList

/-- The text before the first blank and the text after it. -/
def cutBlank (cs : List Char) : List Char × List Char := (cut? isBlank cs).getD (cs, [])

def readTags (cs : List Char) : List String :=
  (((splitAll ',' cs).map trim).filter fun tag => !tag.isEmpty).map String.ofList

def ofFields (line : List Char) : Except LineFault Declaration :=
  let (kind, rest) := cutBlank line
  let (tags, source) := cutBlank (trimStart rest)
  let source := trim source
  if source.isEmpty then .error (.incomplete (String.ofList line))
  else match TableKind.ofChars? kind with
    | none => .error (.unknownKind (String.ofList kind))
    | some kind =>
      match readTags tags with
      | [] => .error .noTags
      | tags => .ok ⟨kind, tags, String.ofList source⟩

def ofLine (line : List Char) : Except LineFault (Option Declaration) :=
  match Line.strip line with
  | [] => .ok none
  | line => (ofFields line).map some

/-- Reads a line of a manifest, the number of which goes into the error. -/
def ofNumberedLine (number : Nat) (line : List Char) : Except Error (Option Declaration) :=
  (ofLine line).mapError (.line number)

/-- Reads lines with numbers from the given one on, up to the first that cannot be read. -/
def ofLinesFrom (number : Nat) : List (List Char) → Except Error (List Declaration)
  | [] => .ok []
  | line :: rest =>
    match ofNumberedLine number line with
    | .error e => .error e
    | .ok d => (ofLinesFrom (number + 1) rest).map (d.toList ++ ·)

/-- The declarations of a manifest, or the error of its first malformed line. -/
def ofManifest (text : List Char) : Except Error (List Declaration) := ofLinesFrom 1 (lines text)

/-- The declarations of a manifest, malformed lines left out. -/
def ofManifestLenient (text : List Char) : List Declaration :=
  (lines text).filterMap fun line =>
    match ofLine line with
    | .ok d => d
    | .error _ => none

def write (d : Declaration) : String :=
  d.kind.name ++ " " ++ ",".intercalate d.tags ++ " " ++ d.source

instance : ToString Declaration := ⟨write⟩

end Declaration

end TagRules
