/-
  Why reading, writing or fetching fails.

  A `FileFault` is what the file system, or the reader of a text file, has to say
  about a path; a `FetchFault` is what the remote side has to say about a URL.  Both
  have the wording in which they are shown.
-/

namespace TagRules

/-- Why an operation on a path failed. -/
inductive FileFault where
  | missing
  | denied
  | busy
  | taken
  | notDirectory
  | isDirectory
  | nameTooLong
  | notText
  | nulInName
  deriving DecidableEq, Repr

namespace FileFault

def message : FileFault → String
  | missing => "No such file or directory (os error 2)"
  | denied => "Permission denied (os error 13)"
  | busy => "Device or resource busy (os error 16)"
  | taken => "File exists (os error 17)"
  | notDirectory => "Not a directory (os error 20)"
  | isDirectory => "Is a directory (os error 21)"
  | nameTooLong => "File name too long (os error 36)"
  | notText => "stream did not contain valid UTF-8"
  | nulInName => "file name contained an unexpected NUL byte"

end FileFault

/-- Why a URL was not fetched: it has no body, or nothing is fetched at all. -/
inductive FetchFault where
  | notFound
  | offline
  deriving DecidableEq, Repr

namespace FetchFault

def message : FetchFault → String
  | notFound => "not found"
  | offline => "remote fetch not available"

end FetchFault

end TagRules
