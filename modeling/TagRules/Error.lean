import TagRules.Kind
import TagRules.Surroundings.Fault
import TagRules.Text.Quoted

/-
  Errors and their wording.

  An error says what went wrong in terms of this library; `message` puts it into
  words.  What the reader of a foreign format has to say about a defect is left out:
  a text or a file is read or it is not.
-/

namespace TagRules

open Text

/-- Why a line of a manifest declares nothing. -/
inductive LineFault where
  | incomplete (line : String)
  | unknownKind (kind : String)
  | noTags
  deriving DecidableEq, Repr

/-- A setting that has to be positive. -/
inductive PositiveSetting where
  | reloadInterval
  | geoReloadInterval
  | reloadWorkers
  | cacheCapacity
  deriving DecidableEq, Repr

def PositiveSetting.name : PositiveSetting → String
  | reloadInterval => "reload_interval_secs"
  | geoReloadInterval => "geo_reload_interval_secs"
  | reloadWorkers => "reload_workers"
  | cacheCapacity => "cache_capacity"

/-- Why options are refused. -/
inductive OptionsFault where
  | malformed
  | unreadable (path : String) (fault : FileFault)
  | notPositive (setting : PositiveSetting)
  | upgradeUrl (url : String)
  | noTags (kind : TableKind)
  | upgradeWithoutPath (kind : GeoKind)
  deriving DecidableEq, Repr

/-- Why a geographic collection is not to be had. -/
inductive CatalogFault where
  | noPath (kind : GeoKind)
  | unavailable (kind : GeoKind) (tags : List String)
  | unreadable (path : String) (fault : FileFault)
  | undecodable (kind : GeoKind)
  | download (url : String) (fault : FetchFault)
  | verification (fault : CatalogFault)
  deriving DecidableEq, Repr

/-- What can go wrong. -/
inductive Error where
  | line (number : Nat) (fault : LineFault)
  | unknownTableKind (kind : String)
  | unknownMatchKind (kind : String)
  | fetch (url : String) (fault : FetchFault)
  | catalog (fault : CatalogFault)
  | options (fault : OptionsFault)
  | file (fault : FileFault)
  deriving DecidableEq, Repr

namespace Error

def unknownTableKindMessage (kind : String) : String := "Invalid table kind: " ++ kind

def fetchMessage (url : String) (fault : FetchFault) : String :=
  "Fetch " ++ url ++ " failed: " ++ fault.message

/-- The wording that begins every message about a catalog. -/
def catalogMessage (text : String) : String := "Catalog error: " ++ text

end Error

def LineFault.message : LineFault → String
  | incomplete line => "expected \x60<kind> <tags> <from>\x60: " ++ line
  | unknownKind kind => Error.unknownTableKindMessage kind
  | noTags => "no tags"

def OptionsFault.message : OptionsFault → String
  | malformed => "invalid options"
  | unreadable path fault => "failed to read " ++ path ++ ": " ++ fault.message
  | notPositive setting => setting.name ++ " must be > 0"
  | upgradeUrl url => "upgrade url must be http(s): " ++ url
  | noTags kind => kind.name ++ " declared without tags"
  | upgradeWithoutPath kind => kind.name ++ "_upgrade_url requires " ++ kind.name ++ "_path"

def CatalogFault.message : CatalogFault → String
  | noPath kind => kind.title ++ " path not configured"
  | unavailable kind tags =>
    kind.title ++ " not available (requested: " ++ quotedList tags ++ ")"
  | unreadable path fault => "Failed to read " ++ path ++ ": " ++ fault.message
  | undecodable kind => "Failed to decode " ++ kind.title ++ " DAT"
  | download url fault => "Download failed: " ++ Error.fetchMessage url fault
  | verification fault => "Verification failed: " ++ Error.catalogMessage fault.message

namespace Error

def message : Error → String
  | line number fault => "Parse error at line " ++ toString number ++ ": " ++ fault.message
  | unknownTableKind kind => unknownTableKindMessage kind
  | unknownMatchKind kind => "Invalid match kind: " ++ kind
  | fetch url fault => fetchMessage url fault
  | catalog fault => catalogMessage fault.message
  | options fault => "Config error: " ++ fault.message
  | file fault => "IO error: " ++ fault.message

end Error

def TableKind.read (text : String) : Except Error TableKind :=
  match TableKind.ofChars? text.toList with
  | some kind => .ok kind
  | none => .error (.unknownTableKind text)

def MatchKind.read (text : String) : Except Error MatchKind :=
  match MatchKind.ofChars? text.toList with
  | some kind => .ok kind
  | none => .error (.unknownMatchKind text)

/-- The kind of listings a text names.  The error has the name that was looked up. -/
def ListTarget.read (text : String) : Except Error ListTarget :=
  match ListTarget.ofChars? text.toList with
  | some kind => .ok kind
  | none => .error (.unknownTableKind (kindName text.toList))

end TagRules
