import Std.Data.ExtTreeMap
import TagRules.Surroundings.Fault
import TagRules.Text.Utf8

/-
  The remote side: bodies by URL.

  Every request for a URL has an answer of its own, by its number: a URL may fail once
  and have a body the next time.  Every request is counted, also one that fails, with
  the timeout it was made with; a remote side that is offline is not asked at all.
-/

namespace TagRules

open Text

/-- The requests for one URL: how many there were and the timeout of the last. -/
structure Requests where
  count : Nat
  timeout : Nat
  deriving DecidableEq, Repr

/-- What each request for a URL gets, by how many there were before it, and the requests made. -/
structure Remote where
  isOnline : Bool
  bodies : String → Nat → Option Bytes
  requests : Std.ExtTreeMap String Requests

namespace Remote

def empty (isOnline : Bool) : Remote := ⟨isOnline, fun _ _ => none, ∅⟩

instance : Inhabited Remote := ⟨empty true⟩

/-- How many requests there were for a URL. -/
def asked (r : Remote) (url : String) : Nat := (r.requests[url]?.map Requests.count).getD 0

/-- What the next request for a URL gets. -/
def answer (r : Remote) (url : String) : Except FetchFault Bytes :=
  if r.isOnline then
    match r.bodies url (r.asked url) with
    | some body => .ok body
    | none => .error .notFound
  else .error .offline

/-- The remote side after one more request. -/
def count (r : Remote) (url : String) (timeout : Nat) : Remote :=
  if r.isOnline then { r with requests := r.requests.insert url ⟨r.asked url + 1, timeout⟩ }
  else r

/-- Lets every request for a URL get the same. -/
def setAll (r : Remote) (url : String) (body : Option Bytes) : Remote :=
  { r with bodies := fun u => if u = url then fun _ => body else r.bodies u }

def setBody (r : Remote) (url : String) (body : Bytes) : Remote := r.setAll url (some body)

def removeBody (r : Remote) (url : String) : Remote := r.setAll url none

end Remote

end TagRules
