import TagRules.Surroundings
import TagRules.Tag
import TagRules.Text.Digest

/-
  Where the rules of a table come from.

  A source is a URL, a file or the rules themselves.  Text says which: a URL begins
  like one, a file is there, and rules begin with the tag of their table.  Any other
  text is the path of a file that is not there yet.
-/

namespace TagRules

open Text

/-- Whether the text, without blanks at its ends, begins like a URL. -/
def isUrl (text : List Char) : Bool :=
  let small := lowerAscii (trim text)
  "http://".toList.isPrefixOf small || "https://".toList.isPrefixOf small

inductive Source where
  | file (path : String)
  | url (url : String)
  | inline (text : String)
  deriving DecidableEq, Repr

namespace Source

/-- The text before a colon or a blank. -/
def head (text : List Char) : List Char := text.takeWhile fun c => !(c == ':' || isBlank c)

/-- Whether the text begins with a spelling of the tag. -/
def opensWith (tag : String) (text : List Char) : Bool :=
  !(head text).isEmpty && Tag.spells (Tag.normalize tag) (head text)

/-- The source that a text names for a tag. -/
def ofText (files : FileTree) (tag text : String) : Source :=
  let cs := trim text.toList
  let trimmed := String.ofList cs
  if isUrl cs then url trimmed
  else if files.isFile trimmed then file trimmed
  else if opensWith tag cs then inline trimmed
  else file trimmed

def write : Source → String
  | file path => "file:" ++ path
  | url u => "url:" ++ u
  | inline _ => "inline"

instance : ToString Source := ⟨write⟩

def details : Source → String
  | file path => "File(" ++ quoted path ++ ")"
  | url u => "Url(" ++ quoted u ++ ")"
  | inline text => "Inline(" ++ quoted text ++ ")"

/-- What a source was like when it was read: given with the table, a file as a look at it showed,
or a body with some digest. -/
inductive Version where
  | given
  | file (seen : Metadata)
  | body (digest : Digest)
  deriving DecidableEq, Repr

structure Reading where
  version : Version
  content : Bytes
  deriving DecidableEq, Repr

end Source

end TagRules
