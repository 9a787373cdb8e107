import TagRules.Error
import TagRules.Surroundings.FileTree
import TagRules.Surroundings.Remote

/-
  What rules come from: files and the remote side.

  An operation that uses the surroundings takes them and returns them changed.
-/

namespace TagRules

open Text

/-- Files and the remote side. -/
structure Surroundings where
  files : FileTree
  remote : Remote
  deriving Inhabited

namespace Surroundings

def fetch (s : Surroundings) (url : String) (timeout : Nat) :
    Except FetchFault Bytes × Surroundings :=
  (s.remote.answer url, { s with remote := s.remote.count url timeout })

end Surroundings

end TagRules
