import TagRules.Geo.Catalog

/-
  Keeping the two geographic files fresh.

  A file is downloaded when it is missing, empty, from the future, or older than the
  interval.  What is downloaded is first written beside the file, under a name with
  `.tmp` at its end; it takes the place of the file only if it can be decoded, and is
  removed otherwise.  A download that fails does no harm while there is something at
  the path.
-/

namespace TagRules.Geo

open Text

/-- A file and the URL it is downloaded from. -/
structure Target where
  path : String
  url : String
  deriving DecidableEq, Repr

/-- The path under which a download is kept until it is verified. -/
def stagingPath (path : String) : String := path ++ ".tmp"

/-- Moves a verified download to its place, or removes one that is not what it should be.  Without
a collection to verify it for, any download will do. -/
def settle (files : FileTree) (path : String) (kind : Option GeoKind) :
    Except Error Unit × FileTree :=
  let staged := stagingPath path
  let verified := match kind with
    | some kind => verify kind files staged
    | none => .ok ()
  match verified with
  | .error fault =>
    let left := match files.remove staged with
      | .ok files => files
      | .error _ => files
    (.error (.catalog (.verification fault)), left)
  | .ok () =>
    match files.rename staged path with
    | .ok files => (.ok (), files)
    | .error fault => (.error (.file fault), files)

def install (files : FileTree) (path : String) (kind : Option GeoKind) (body : Bytes) :
    Except Error Unit × FileTree :=
  match files.write (stagingPath path) body with
  | .error fault => (.error (.file fault), files)
  | .ok files => settle files path kind

def download (target : Target) (kind : Option GeoKind) (timeout : Nat) (s : Surroundings) :
    Except Error Unit × Surroundings :=
  match s.files.makeParent target.path with
  | (.error fault, files) => (.error (.file fault), { s with files })
  | (.ok (), files) =>
    match { s with files }.fetch target.url timeout with
    | (.error fault, s) => (.error (.catalog (.download target.url fault)), s)
    | (.ok body, s) =>
      let (result, files) := install s.files target.path kind body
      (result, { s with files })

/-- The files to keep fresh, and the age in nanoseconds up to which one is fresh. -/
structure Refresher where
  ip : Option Target
  site : Option Target
  interval : Nat
  deriving DecidableEq, Repr

namespace Refresher

/-- Seven days. -/
def standardInterval : Nat := 7 * 24 * 60 * 60 * 1000000000

def hasTargets (r : Refresher) : Bool := r.ip.isSome || r.site.isSome

/-- Whether an age is that of a file that is from the future or too old. -/
def isStale (r : Refresher) (age : Int) : Bool := age < 0 || (r.interval : Int) < age

/-- Whether the file at a path has to be downloaded. -/
def needsDownload (r : Refresher) (files : FileTree) (path : String) : Bool :=
  match files.metadata path with
  | .error _ => true
  | .ok seen => seen.size == 0 || r.isStale (files.now - seen.written)

/-- Downloads a file of a collection if it needs it, or in any case; says whether it was replaced.
A failure is an error only if nothing is at the path. -/
def refreshTarget (r : Refresher) (force : Bool) (kind : GeoKind) (target : Option Target)
    (timeout : Nat) (s : Surroundings) : Except Error Bool × Surroundings :=
  match target with
  | none => (.ok false, s)
  | some target =>
    if force || r.needsDownload s.files target.path then
      match download target (some kind) timeout s with
      | (.ok (), s) => (.ok true, s)
      | (.error e, s) =>
        if s.files.isPresent target.path then (.ok false, s) else (.error e, s)
    else (.ok false, s)

/-- Downloads the files that need it, or both; says whether one was replaced.  The second file is
left alone if the first ends in an error. -/
def refresh (r : Refresher) (force : Bool) (timeout : Nat) (s : Surroundings) :
    Except Error Bool × Surroundings :=
  match r.refreshTarget force .ip r.ip timeout s with
  | (.error e, s) => (.error e, s)
  | (.ok first, s) =>
    match r.refreshTarget force .site r.site timeout s with
    | (.error e, s) => (.error e, s)
    | (.ok second, s) => (.ok (first || second), s)

end Refresher

end TagRules.Geo
