/-
  How an automaton over bytes grows.

  Of an automaton only its size matters here: the number of its states and the
  room they take.  A `Stage` is a part of an automaton that has yet to be added;
  how much room it takes may depend on the number its first state gets.
-/

namespace TagRules.Pattern

/-- The most room an automaton may take. -/
def roomLimit : Nat := 10 * 1024 * 1024

/-- The room of a state with nothing of its own. -/
def stateRoom : Nat := 32

/-- The room of one of several states to go on to. -/
def edgeRoom : Nat := 4

/-- The room of one of several byte ranges to go on with. -/
def rangeRoom : Nat := 8

/-- Which way an automaton reads. -/
inductive Direction where
  | forward
  | backward
  deriving DecidableEq, Repr

/-- How far an automaton is built: the number of its states, which is the number the next one
gets, and the room they take. -/
structure Growth where
  states : Nat
  room : Nat
  deriving DecidableEq, Repr, Inhabited

namespace Growth

def start : Growth := ⟨0, 0⟩

/-- One more state, with the room it takes besides its own. -/
def state (g : Growth) (more : Nat) : Growth := ⟨g.states + 1, g.room + stateRoom + more⟩

/-- One more way on from a state that is there. -/
def edge (g : Growth) : Growth := { g with room := g.room + edgeRoom }

/-- A state for each byte of a text. -/
def bytes (g : Growth) (cs : List Char) : Growth :=
  cs.foldl (fun g c => ⟨g.states + c.utf8Size, g.room + c.utf8Size * stateRoom⟩) g

/-- A state that chooses between two ways on. -/
def fork (g : Growth) : Growth := g.state (2 * edgeRoom)

/-- Adds the same part the given number of times, or until there is too much. -/
def copies (part : Growth → Growth) : Nat → Growth → Growth
  | 0, g => g
  | n + 1, g => if roomLimit < g.room then g else copies part n (part g)

end Growth

/-- A part of an automaton, as what it adds to the states before it. -/
structure Stage where
  add : Growth → Growth

end TagRules.Pattern
