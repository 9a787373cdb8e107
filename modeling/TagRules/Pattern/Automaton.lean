import TagRules.Pattern.Assembly
import TagRules.Pattern.SharedStates
import TagRules.Pattern.WordTree

/-
  The automata of a pattern, and whether they have room.

  A pattern is searched for by two automata over bytes, one that reads the text
  forward and one that reads it backward.  `stage` follows the pattern and adds
  the states of each part in turn; loops are unrolled to their counts.  A pattern
  is refused if one of its automata takes more than `roomLimit`.
-/

namespace TagRules.Pattern

open Unicode

namespace Node

def text? : Node → Option (List Char)
  | text cs => some cs
  | _ => none

/-- Whether some part of the pattern is a set without members. -/
def hasHole : Node → Bool
  | chars set => set.spans.isEmpty
  | seq a b => a.hasHole || b.hasHole
  | alt a b => a.hasHole || b.hasHole
  | loop body _ _ => body.hasHole
  | group _ body => body.hasHole
  | _ => false

/-- Whether every match has a character. -/
def takesText : Node → Bool
  | text _ => true
  | chars _ => true
  | seq a b => a.takesText || b.takesText
  | alt a b => a.takesText && b.takesText
  | loop body least _ => 0 < least && body.takesText
  | group _ body => body.takesText
  | _ => false

/-- The states of a choice once so many alternatives are built: the fork and the common end
come after the second. -/
def afterBranch (count : Nat) (g : Growth) : Growth :=
  (if count = 2 then (g.state 0).state 0 else g).edge

/-- The states of a loop around a part. -/
def loopStage (least : Nat) (most : Option Nat) (takesText : Bool) (part : Stage) : Stage :=
  match most with
  | none =>
    if 0 < least then ⟨fun g => (Growth.copies part.add least g).fork⟩
    else if takesText then ⟨fun g => part.add g.fork⟩
    else ⟨fun g => (part.add g).fork.fork.state 0⟩
  | some most =>
    if least = 0 && most = 1 then ⟨fun g => (part.add g.fork).state 0⟩
    else if least = most then ⟨Growth.copies part.add least⟩
    else ⟨fun g =>
      let g := if least = 0 then g.state 0 else Growth.copies part.add least g
      Growth.copies (fun g => part.add g.fork) (most - least) (g.state 0)⟩

/-- The states of a pattern.  If it ends a choice, `place` is the number of alternatives before
it. -/
def stage (d : Direction) (place : Option Nat) (node : Node) : Stage :=
  let finish := fun (stage : Stage) => match place with
    | none => stage
    | some count => ⟨fun g => afterBranch (count + 1) (stage.add g)⟩
  match node with
  | empty => finish ⟨fun g => g.state 0⟩
  | text cs => finish ⟨fun g => g.bytes cs⟩
  | chars set => finish (.ofSet d set)
  | look _ => finish ⟨fun g => g.state 0⟩
  | seq a b =>
    let first := a.stage d none
    let second := b.stage d none
    finish (match d with
      | .forward => ⟨fun g => second.add (first.add g)⟩
      | .backward => ⟨fun g => first.add (second.add g)⟩)
  | alt a b =>
    let words := if place.isNone then (alt a b).branches.mapM text? else none
    match words with
    | some words =>
      let words := words.map (readBytes d)
      let depth := words.foldl (fun n word => max n word.length) 0
      ⟨fun g => wordTree depth words (g.state 0)⟩
    | none =>
      let count := place.getD 0 + 1
      let first := a.stage d none
      let rest := b.stage d (some count)
      ⟨fun g => rest.add (afterBranch count (first.add g))⟩
  | loop body least most =>
    finish (loopStage least most (body.takesText && !body.hasHole) (body.stage d none))
  | group _ body =>
    let inner := body.stage d none
    finish (match d with
      | .forward => ⟨fun g => (inner.add (g.state 0)).state 0⟩
      | .backward => inner)

/-- Whether a condition holds where every match begins. -/
def beginsAt (l : Look) : Node → Bool
  | look m => l = m
  | seq a b => a.beginsAt l || (a.isHollow && b.beginsAt l)
  | alt a b => a.beginsAt l && b.beginsAt l
  | loop body least _ => 0 < least && body.beginsAt l
  | group _ body => body.beginsAt l
  | _ => false

/-- Whether a condition holds where every match ends. -/
def endsAt (l : Look) : Node → Bool
  | look m => l = m
  | seq a b => b.endsAt l || (b.isHollow && a.endsAt l)
  | alt a b => a.endsAt l && b.endsAt l
  | loop body least _ => 0 < least && body.endsAt l
  | group _ body => body.endsAt l
  | _ => false

/-- The room of the automaton that reads in the given direction.  Unless every match is tied to
the side where it begins to read, a loop over all bytes comes first; the forward one keeps the
ends of the match. -/
def room (d : Direction) (node : Node) : Nat :=
  let tied := match d with
    | .forward => node.beginsAt .textStart
    | .backward => node.endsAt .textEnd
  let g := if tied then Growth.start.state 0 else (Growth.start.fork.state 0).state rangeRoom
  let g := match d with
    | .forward => ((node.stage d none).add (g.state 0)).state 0
    | .backward => (node.stage d none).add g
  (g.state 0).room

/-- How many texts make a list that is looked up without an automaton. -/
def longList : Nat := 3000

/-- Whether the automata of the pattern have room. -/
def fits (node : Node) : Bool :=
  let words := node.branches
  (longList ≤ words.length && words.all (·.text?.isSome)) ||
    (node.room .backward ≤ roomLimit && node.room .forward ≤ roomLimit)

end Node

end TagRules.Pattern
