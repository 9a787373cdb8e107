import Std.Data.ExtTreeMap
import TagRules.Surroundings.Path
import TagRules.Text.Utf8

/-
  Files and directories.

  A file tree holds entries by their place, and a path leads to a place: `walk`
  follows its steps through directories.  Looking at an entry, reading, writing,
  making directories and renaming are said in terms of `walk`, each with the fault
  it ends with.  Outside the working directory there are directories upwards and
  nothing else.

  Looking and reading are different things: `metadata` tells of a file or a directory
  when it was written and how long it is, also where `read` is refused, because the file
  may not be read or is a directory.  A directory is written when an entry is made in it
  or taken away.  Times are nanoseconds, and no operation moves the clock.
-/

namespace TagRules

open Text

/-- What a look at a file or a directory tells: when it was written, and how long it is. -/
structure Metadata where
  written : Int
  size : Nat
  deriving DecidableEq, Repr

structure File where
  content : Bytes
  written : Int
  isReadable : Bool
  deriving DecidableEq, Repr

namespace File

def metadata (f : File) : Metadata := ⟨f.written, f.content.length⟩

end File

/-- The names that lead to a place from the working directory, the last one first.  A place
above has only names `..`, and the root has the name `/`. -/
abbrev Place := List String

namespace Place

/-- The place one step further. -/
def step (place : Place) (name : String) : Place :=
  if name == "." then place
  else if name == ".." then
    match place with
    | [] => [".."]
    | inner :: outer =>
      if inner == ".." then ".." :: place else if inner == "/" then place else outer
  else name :: place

/-- Whether the place is the working directory, above it, or the root. -/
def isGiven (place : Place) : Bool := place.all (· == "..") || place == ["/"]

end Place

/-- What is at a place. -/
inductive FileTree.Entry where
  | file (f : File)
  | directory
  deriving DecidableEq, Repr

/-- Files and directories, what a look at the directory of a place tells, and the clock. -/
structure FileTree where
  entries : Std.ExtTreeMap Place FileTree.Entry
  folders : Place → Metadata
  now : Int

namespace FileTree

/-- The length of a directory without entries. -/
def folderSize : Nat := 4096

def empty (now : Int) : FileTree := ⟨∅, fun _ => ⟨now, folderSize⟩, now⟩

instance : Inhabited FileTree := ⟨empty 0⟩

/-- What is at a place. -/
def entryAt? (t : FileTree) (place : Place) : Option Entry :=
  if place.isGiven then some .directory else t.entries[place]?

/-- Follows steps, each from a directory. -/
def walk (t : FileTree) (place : Place) : List String → Except FileFault Place
  | [] => .ok place
  | name :: rest =>
    match t.entryAt? place with
    | none => .error .missing
    | some (.file _) => .error .notDirectory
    | some .directory =>
      if Path.stepLimit < name.utf8ByteSize then .error .nameTooLong
      else t.walk (place.step name) rest

def start (p : Path) : Place := if p.isAbsolute then ["/"] else []

/-- The place a path leads to. -/
def locate (t : FileTree) (p : Path) : Except FileFault Place :=
  match p.fault? with
  | some fault => .error fault
  | none => t.walk (start p) (p.steps ++ if p.endsWithSlash then ["."] else [])

def find (t : FileTree) (p : Path) : Except FileFault Entry := do
  let place ← t.locate p
  match t.entryAt? place with
  | some entry => .ok entry
  | none => .error .missing

def look (t : FileTree) (path : String) : Except FileFault Entry := t.find (Path.ofString path)

def file (t : FileTree) (path : String) : Except FileFault File :=
  match t.look path with
  | .ok (.file f) => .ok f
  | .ok .directory => .error .isDirectory
  | .error fault => .error fault

/-- What a look at the file or the directory of a path tells. -/
def metadata (t : FileTree) (path : String) : Except FileFault Metadata := do
  let place ← t.locate (Path.ofString path)
  match t.entryAt? place with
  | some (.file f) => .ok f.metadata
  | some .directory => .ok (t.folders place)
  | none => .error .missing

def read (t : FileTree) (path : String) : Except FileFault Bytes := do
  let f ← t.file path
  if f.isReadable then .ok f.content else .error .denied

def readText (t : FileTree) (path : String) : Except FileFault String :=
  match t.read path with
  | .ok bytes =>
    match ofUtf8? bytes with
    | some text => .ok text
    | none => .error .notText
  | .error fault => .error fault

def isFile (t : FileTree) (path : String) : Bool :=
  match t.look path with
  | .ok (.file _) => true
  | .ok .directory | .error _ => false

def isPresent (t : FileTree) (path : String) : Bool := (t.look path).isOk

/-- Where a path puts an entry: at a place, which has to be a directory if the path ends with a
slash, or nowhere, because it ends with a step that is not a name. -/
inductive Slot where
  | reserved
  | free (place : Place) (endsWithSlash : Bool)
  deriving DecidableEq, Repr

/-- Where a path puts an entry. -/
def slot (t : FileTree) (p : Path) : Except FileFault Slot :=
  match p.fault? with
  | some fault => .error fault
  | none =>
    match p.steps.getLast? with
    | none => .ok .reserved
    | some name => do
      let parent ← t.walk (start p) (p.steps.dropLast ++ ["."])
      if name == "." || name == ".." then .ok .reserved
      else if Path.stepLimit < name.utf8ByteSize then .error .nameTooLong
      else .ok (.free (name :: parent) p.endsWithSlash)

/-- The tree whose directory at a place is written now. -/
def touch (t : FileTree) (place : Place) : FileTree :=
  { t with folders := fun p =>
      if p = place then { t.folders p with written := t.now } else t.folders p }

/-- The tree with an entry at a place, which is new to its directory or takes the place of
another. -/
def put (t : FileTree) (place : Place) (entry : Entry) : FileTree :=
  let filled := { t with entries := t.entries.insert place entry }
  if place ∈ t.entries then filled else filled.touch place.tail

def erase (t : FileTree) (place : Place) : FileTree :=
  { t with entries := t.entries.erase place }.touch place.tail

/-- The place at which a file may be written. -/
def filePlace (t : FileTree) (path : String) : Except FileFault Place := do
  match ← t.slot (Path.ofString path) with
  | .reserved | .free _ true => .error .isDirectory
  | .free place false =>
    match t.entryAt? place with
    | some .directory => .error .isDirectory
    | some (.file _) | none => .ok place

/-- Whether what is written at a place may be read.  A new file may, and one that is written over
as before. -/
def keepsReadable (t : FileTree) (place : Place) : Bool :=
  match t.entryAt? place with
  | some (.file f) => f.isReadable
  | some .directory | none => true

/-- Writes a file as if at some time. -/
def writeAt (t : FileTree) (path : String) (content : Bytes) (written : Int) :
    Except FileFault FileTree :=
  (t.filePlace path).map fun place =>
    t.put place (.file ⟨content, written, t.keepsReadable place⟩)

def write (t : FileTree) (path : String) (content : Bytes) : Except FileFault FileTree :=
  t.writeAt path content t.now

def makeDirectory (t : FileTree) (p : Path) : Except FileFault FileTree := do
  match ← t.slot p with
  | .reserved => .error .taken
  | .free place _ =>
    match t.entryAt? place with
    | some _ => .error .taken
    | none => .ok ((t.put place .directory).touch place)

def isDirectory (t : FileTree) (p : Path) : Bool :=
  match t.find p with
  | .ok .directory => true
  | .ok (.file _) | .error _ => false

/-- What is left of a fault in making a directory: nothing, if there is one. -/
def unlessDirectory (t : FileTree) (p : Path) (fault : FileFault) : Except FileFault Unit :=
  if t.isDirectory p then .ok () else .error fault

/-- Makes the directory of some steps, given last first, and those it is in.  Directories made
before a fault stay. -/
def makeSteps (isAbsolute : Bool) (t : FileTree) :
    List String → Except FileFault Unit × FileTree
  | [] => (.ok (), t)
  | name :: outer =>
    let p := Path.ofSteps isAbsolute (name :: outer).reverse
    match t.makeDirectory p with
    | .ok t => (.ok (), t)
    | .error .missing =>
      match makeSteps isAbsolute t outer with
      | (.error fault, t) => (.error fault, t)
      | (.ok (), t) =>
        match t.makeDirectory p with
        | .ok t => (.ok (), t)
        | .error fault => (t.unlessDirectory p fault, t)
    | .error fault => (t.unlessDirectory p fault, t)

def makeDirectories (t : FileTree) (p : Path) : Except FileFault Unit × FileTree :=
  makeSteps p.isAbsolute t p.significantSteps.reverse

def makeParent (t : FileTree) (path : String) : Except FileFault Unit × FileTree :=
  match (Path.ofString path).parent? with
  | some parent => t.makeDirectories parent
  | none => (.ok (), t)

def remove (t : FileTree) (path : String) : Except FileFault FileTree := do
  match ← t.slot (Path.ofString path) with
  | .reserved => .error .isDirectory
  | .free place endsWithSlash =>
    match t.entryAt? place with
    | none => .error .missing
    | some .directory => .error .isDirectory
    | some (.file _) =>
      if endsWithSlash then .error .notDirectory
      else .ok (t.erase place)

/-- Moves a file to another path, in place of a file there. -/
def rename (t : FileTree) (source target : String) : Except FileFault FileTree := do
  match ← t.slot (Path.ofString source), ← t.slot (Path.ofString target) with
  | .reserved, _ | _, .reserved => .error .busy
  | .free place _, .free newPlace endsWithSlash =>
    match t.entryAt? place with
    | none => .error .missing
    | some .directory => .error .isDirectory
    | some (.file f) =>
      if endsWithSlash then .error .notDirectory
      else match t.entryAt? newPlace with
        | some .directory => .error .isDirectory
        | some (.file _) | none =>
          .ok (((t.erase place).erase newPlace).put newPlace (.file f))

end FileTree

end TagRules
