import TagRules.Pattern.Node
import TagRules.Unicode.Derived

/-
  Putting patterns together.

  A pattern is built from its parts in the plainest form that has the same matches:
  neighbouring texts are one text, a set of one character is a text, nothing stands
  beside the empty pattern, alternatives that are all single characters or all sets
  are one set, and what all alternatives begin with stands before them.  The form
  decides how large the automaton of the pattern is.
-/

namespace TagRules.Pattern.Node

open Unicode

def ofSet (set : CodeSet) : Node :=
  let set := set.sdiff (CodeSet.span 0xD800 0xDFFF)
  match set.spans with
  | [s] => if s.first = s.last then text [Char.ofNat s.first] else chars set
  | _ => chars set

/-! One after another -/

/-- The parts of a sequence. -/
def parts : Node → List Node
  | seq a b => a.parts ++ b.parts
  | node => [node]

/-- One pattern after another.  The second one's parts follow those of the first. -/
def followedBy (a b : Node) : Node :=
  match a, b with
  | empty, b => b
  | a, empty => a
  | text cs, text ds => text (cs ++ ds)
  | text cs, seq (text ds) rest => seq (text (cs ++ ds)) rest
  | seq a rest, b => seq a (followedBy rest b)
  | a, b => seq a b

def sequence (nodes : List Node) : Node := nodes.foldr followedBy empty

/-! Alternatives -/

def branches : Node → List Node
  | alt a b => a.branches ++ b.branches
  | node => [node]

/-- The character a text of one character consists of. -/
def character? : Node → Option Char
  | text [c] => some c
  | _ => none

/-- The set a pattern of one character takes it from. -/
def set? : Node → Option CodeSet
  | chars set => some set
  | _ => none

/-- Alternatives of one character each as one set: all of them texts, or none. -/
def oneSet? (nodes : List Node) : Option Node :=
  match nodes.mapM character? with
  | some cs => some (ofSet (CodeSet.ofChars cs))
  | none => (nodes.mapM set?).map fun sets => ofSet (CodeSet.unionAll sets)

/-- The alternatives as they are. -/
def chain : List Node → Node
  | [] => chars CodeSet.empty
  | [node] => node
  | node :: rest => alt node (chain rest)

/-- The alternatives, as one set if they can be. -/
def gather (nodes : List Node) : Node :=
  match nodes with
  | [node] => node
  | _ => (oneSet? nodes).getD (chain nodes)

/-- The longest list that both begin with. -/
def sharedStart : List Node → List Node → List Node
  | a :: as, b :: bs => if a = b then a :: sharedStart as bs else []
  | _, _ => []

/-- What all of the sequences begin with, as parts.  A single part is no sequence. -/
def commonStart : List (List Node) → List Node
  | [] => []
  | first :: rest =>
    if (first :: rest).all (1 < ·.length) then rest.foldl sharedStart first else []

/-- The patterns as alternatives. -/
def choice (nodes : List Node) : Node :=
  let flat := nodes.flatMap branches
  match gather flat with
  | alt a b =>
    let sequences := flat.map parts
    match commonStart sequences with
    | [] => alt a b
    | start =>
      let rests := sequences.map fun parts => sequence (parts.drop start.length)
      sequence (start ++ [gather (rests.flatMap branches)])
  | node => node

/-! Loops -/

/-- Whether the pattern matches nothing but the empty text. -/
def isHollow : Node → Bool
  | empty => true
  | look _ => true
  | text _ => false
  | chars _ => false
  | seq a b => a.isHollow && b.isHollow
  | alt a b => a.isHollow && b.isHollow
  | loop body _ most => body.isHollow || most == some 0
  | group _ body => body.isHollow

/-- The pattern, repeated.  What only matches the empty text is repeated once at most. -/
def repeated (body : Node) (least : Nat) (most : Option Nat) : Node :=
  let hollow := body.isHollow
  let least := if hollow then min least 1 else least
  let most := if hollow then some (min (most.getD 1) 1) else most
  if most = some 0 then empty
  else if least = 1 && most = some 1 then body
  else loop body least most

end TagRules.Pattern.Node
