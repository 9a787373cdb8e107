import TagRules.Pattern.Growth
import TagRules.Unicode.Encoded

/-
  The states that match one of several words.

  The words form a tree in which they share what they begin with.  Of two words
  that match at one place the one listed first is preferred, so words that a
  shorter one stands between do not share what lies behind its end.
-/

namespace TagRules.Pattern

open Unicode

/-- Words between the places where a word ends: whenever the empty word comes up, a new list
begins.  Empty words count once until there is another. -/
def splitAtEmpty (words : List (List Nat)) : List (List (List Nat)) :=
  let (ended, current) := words.foldl (fun (ended, current) word =>
    if !word.isEmpty then (ended, word :: current)
    else if current.isEmpty && !ended.isEmpty && ended.all List.isEmpty then (ended, current)
    else (current.reverse :: ended, [])) (([] : List (List (List Nat))), ([] : List (List Nat)))
  (current.reverse :: ended).reverse

/-- The rests of words that begin with the same byte, for every first byte. -/
def byFirst (words : List (List Nat)) : List (Nat × List (List Nat)) :=
  words.foldl (fun groups word =>
    match word with
    | [] => groups
    | b :: rest =>
      if groups.any (·.1 == b) then
        groups.map fun (first, rests) => (first, if first == b then rest :: rests else rests)
      else (b, [rest]) :: groups) []

/-- The states that match one of the words byte by byte.  Words share what they begin with
unless a whole word was listed between them. -/
def wordTree : Nat → List (List Nat) → Growth → Growth
  | 0, _, g => g
  | depth + 1, words, g =>
    let lists := splitAtEmpty words
    let groups := lists.map fun list => byFirst list
    let g := groups.foldl (fun g group =>
      let g := group.foldl (fun g (_, rests) =>
        if rests.all List.isEmpty then g else wordTree depth rests.reverse g) g
      match group with
      | [] => g
      | [_] => g.state 0
      | _ => g.state (group.length * rangeRoom)) g
    g.state (((groups.filter (!·.isEmpty)).length + (lists.length - 1)) * edgeRoom)

def readBytes (d : Direction) (cs : List Char) : List Nat :=
  let bytes := cs.flatMap fun c => encode c.toNat
  match d with
  | .forward => bytes
  | .backward => bytes.reverse

end TagRules.Pattern
