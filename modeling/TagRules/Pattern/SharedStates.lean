import Std.Data.HashMap
import TagRules.Pattern.Growth
import TagRules.Unicode.Encoded

/-
  The states that match one character of a set.

  Characters outside ASCII are matched byte by byte, and states that would be the
  same are shared.  They are looked up in a table with few slots, in which a
  newcomer takes the place of what was there, so what is found depends on the
  numbers of the states.
-/

namespace TagRules.Pattern

open Unicode

/-- An automaton with the table of the states that may be shared: in each slot, what the state
does and its number. -/
structure Sharing (κ : Type) where
  growth : Growth
  table : Std.HashMap Nat (κ × Nat)

namespace Sharing

/-- A new state, put into a slot of the table. -/
def fresh {κ : Type} (s : Sharing κ) (slot : Nat) (key : κ) (more : Nat) : Nat × Sharing κ :=
  let number := s.growth.states
  (number, ⟨s.growth.state more, s.table.insert slot (key, number)⟩)

/-- The number of the state that does what `key` says, and the automaton with that state. -/
def shared {κ : Type} [DecidableEq κ] (s : Sharing κ) (slot : Nat) (key : κ) (more : Nat) :
    Nat × Sharing κ :=
  match s.table[slot]? with
  | some (known, number) => if known = key then (number, s) else s.fresh slot key more
  | none => s.fresh slot key more

end Sharing

/-- A byte range and the number of the state after it. -/
abbrev Edge := ByteRange × Nat

/-- Mixes a number into a hash. -/
def mixed (h : UInt64) (n : Nat) : UInt64 := (h ^^^ n.toUInt64) * 1099511628211

def noHash : UInt64 := 14695981039346656037

def mixedEdges (h : UInt64) : List Edge → UInt64
  | [] => h
  | (range, next) :: rest => mixedEdges (mixed (mixed (mixed h range.first) range.last) next) rest

def forwardSlots : Nat := 10000

def backwardSlots : Nat := 1000

/-- The state that matches the strands, which are in increasing order, and ends at `target`.
States that go on in the same way are shared, so strands share their ends. -/
def shareEnds (target : Nat) :
    Nat → List Strand → Sharing (List Edge) → Nat × Sharing (List Edge)
  | 0, _, s => (target, s)
  | depth + 1, strands, s =>
    if strands.all List.isEmpty then (target, s)
    else
      let groups := strands.splitBy fun a b => a.head? == b.head?
      let (edges, s) := groups.foldl (fun (edges, s) group =>
        match group.head?.bind List.head? with
        | none => (edges, s)
        | some range =>
          let (next, s) := shareEnds target depth (group.map List.tail) s
          ((range, next) :: edges, s)) (([] : List Edge), s)
      let edges := edges.reverse
      let hash := (mixedEdges noHash edges).toNat
      s.shared (hash % forwardSlots) edges (edges.length * rangeRoom)

/-- The states that match a strand backward and end at `target`.  States that come to the same
one by the same bytes are shared, so strands share their beginnings. -/
def shareStarts (target : Nat) (strand : Strand) (s : Sharing Edge) : Sharing Edge :=
  (strand.foldl (fun (next, s) range =>
    let hash := (mixed (mixed (mixed noHash next) range.first) range.last).toNat
    s.shared (hash % backwardSlots) (range, next) 0) (target, s)).2

/-- The states that match one character of the set.  If all are ASCII, one state has a range
for each run of them. -/
def Stage.ofSet (d : Direction) (set : CodeSet) : Stage :=
  if set.isAscii then
    let room := set.spans.length * rangeRoom
    ⟨fun g => (g.state 0).state room⟩
  else
    let strands := set.strands
    match d with
    | .forward => ⟨fun g => (shareEnds g.states 4 strands ⟨g.state 0, ∅⟩).2.growth⟩
    | .backward => ⟨fun g =>
      let s : Sharing Edge := ⟨(g.state 0).state 0, ∅⟩
      (strands.foldl (fun s strand =>
        let s := shareStarts (g.states + 1) strand s
        { s with growth := s.growth.edge }) s).growth⟩

end TagRules.Pattern
