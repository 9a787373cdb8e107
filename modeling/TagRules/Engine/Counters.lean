import Std.Data.ExtTreeMap

/-
  Counters by class and name.

  A counter counts modulo 2 ^ 64.  It comes into being with its first increment, even
  one by zero, and it stays until its class is reset.  The counters of a class are
  listed with the largest value first, and by name where values are equal.
-/

namespace TagRules

/-- What is counted: matches of names by domain rules and by keywords, matches of networks, and
what is no match at all. -/
inductive CountClass where
  | domain
  | keyword
  | network
  | metrics
  deriving DecidableEq, Repr, Inhabited

namespace CountClass

def name : CountClass → String
  | domain => "domain"
  | keyword => "keyword"
  | network => "network"
  | metrics => "metrics"

def ofName? : String → Option CountClass
  | "domain" => some domain
  | "keyword" => some keyword
  | "network" => some network
  | "metrics" => some metrics
  | _ => none

end CountClass

/-- The counters of one class. -/
abbrev NamedCounters := Std.ExtTreeMap String UInt64

/-- Counters by class and name. -/
structure Counters where
  domain : NamedCounters
  keyword : NamedCounters
  network : NamedCounters
  metrics : NamedCounters

namespace Counters

def empty : Counters := ⟨∅, ∅, ∅, ∅⟩

instance : Inhabited Counters := ⟨empty⟩

def ofClass (c : Counters) : CountClass → NamedCounters
  | .domain => c.domain
  | .keyword => c.keyword
  | .network => c.network
  | .metrics => c.metrics

def withClass (c : Counters) (cls : CountClass) (m : NamedCounters) : Counters :=
  match cls with
  | .domain => { c with domain := m }
  | .keyword => { c with keyword := m }
  | .network => { c with network := m }
  | .metrics => { c with metrics := m }

/-- The value of a counter, zero for one that is not there. -/
def value (c : Counters) (cls : CountClass) (name : String) : UInt64 :=
  ((c.ofClass cls)[name]?).getD 0

def increment (c : Counters) (cls : CountClass) (name : String) (delta : UInt64) : Counters :=
  c.withClass cls ((c.ofClass cls).insert name (c.value cls name + delta))

def reset (c : Counters) (cls : CountClass) : Counters := c.withClass cls ∅

/-- Whether a counter does not come after another in a listing. -/
def precedes (x y : String × UInt64) : Bool :=
  ((compare y.2 x.2).then (compare x.1 y.1)) != .gt

/-- The counters of a class as they are listed. -/
def values (c : Counters) (cls : CountClass) : List (String × UInt64) :=
  (c.ofClass cls).toList.mergeSort precedes

end Counters

end TagRules
