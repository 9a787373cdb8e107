import TagRules.Net.NetworkText

/-
  Networks that are searched by bisection.

  They are added in any order and sorted before they are searched.  Sorting also
  drops every network inside another one, so sorted networks are disjoint and in
  order, at most one of them covers a query, and bisection finds it.
  `find?` is that search; `scan?` looks at every network in turn and is what the
  search has to agree with.
-/

namespace TagRules

open Net

/-- Networks, and whether they are sorted and disjoint. -/
structure NetworkRules where
  nets : Array Network
  isSorted : Bool
  deriving DecidableEq, Repr

namespace NetworkRules

def empty : NetworkRules := ⟨#[], true⟩

instance : Inhabited NetworkRules := ⟨empty⟩

/-- The networks that follow `kept` and are not inside it or inside a network kept after it. -/
def keepAfter (kept : Network) : List Network → List Network
  | [] => []
  | n :: rest => if kept.covers n then keepAfter kept rest else n :: keepAfter n rest

/-- The networks that are not inside an earlier one that was kept. -/
def keepBroadest : List Network → List Network
  | [] => []
  | n :: rest => n :: keepAfter n rest

/-- The networks in order, those inside another one dropped. -/
def arrange (nets : List Network) : List Network := keepBroadest (nets.mergeSort Network.le)

/-- The networks sorted, and how many were dropped. -/
def sort (rules : NetworkRules) : NetworkRules × Nat :=
  if rules.isSorted then (rules, 0)
  else
    let kept := arrange rules.nets.toList
    (⟨kept.toArray, true⟩, rules.nets.size - kept.length)

/-- The networks with one more, which have to be sorted before they are searched. -/
def add (rules : NetworkRules) (n : Network) : NetworkRules := ⟨rules.nets.push n.truncate, false⟩

/-- The networks with the one a text names, if it names one. -/
def addRule? (rules : NetworkRules) (cs : List Char) : Option NetworkRules :=
  (Network.ofRule? cs).map rules.add

/-- Some networks, sorted. -/
def ofList (nets : List Network) : NetworkRules :=
  (sort ⟨(nets.map Network.truncate).toArray, false⟩).1

def toList (rules : NetworkRules) : List Network := rules.nets.toList

def size (rules : NetworkRules) : Nat := rules.nets.size

/-- Searches the networks from `low` up to `high` for one that covers the query.  The half
that is left cannot hold it, because a network comes before everything inside it. -/
def bisect (nets : Array Network) (query : Network) (low high : Nat) (h : high ≤ nets.size) :
    Option Network :=
  if hlt : low < high then
    let middle := low + (high - low) / 2
    have hm : middle < nets.size := by omega
    let candidate := nets[middle]
    if candidate.covers query then some candidate
    else if candidate.order query == .gt then bisect nets query low middle (by omega)
    else bisect nets query (middle + 1) high h
  else none
termination_by high - low

/-- The sorted network that covers the query. -/
def find? (rules : NetworkRules) (query : Network) : Option Network :=
  bisect rules.nets query 0 rules.nets.size (Nat.le_refl _)

/-- The first network that covers the query, in whatever order they are. -/
def scan? (nets : List Network) (query : Network) : Option Network :=
  List.find? (fun n => n.covers query) nets

def covers (rules : NetworkRules) (query : Network) : Bool := (rules.find? query).isSome

def coversAddress (rules : NetworkRules) (a : Address) : Bool := rules.covers (Network.host a)

end NetworkRules

end TagRules
