import TagRules.Unicode.CodeSet

/-
  Patterns and what they match.

  A pattern is matched against a text without looking at which part of the text it
  matches: the only question is whether it matches somewhere.  `ends` answers it by
  positions.  It takes the set of positions where a match may begin and returns the
  set of positions where it may then end, one set for all of them at once, so there
  is no backtracking and every loop settles after at most one round per position.

  A set of positions is a number: bit `i` says whether position `i` is in the set.
  A text of `n` characters has the positions `0` to `n`.

  Words of ASCII letters have no boundary between the bytes of a character outside
  ASCII, so a condition on them may hold there, and with it a pattern that needs no
  character.  The search takes the match that ends first; finding one inside every
  such character, it gets past the character without having matched it.
-/

namespace TagRules.Pattern

open Unicode

/-- How a position may lie with respect to words. -/
inductive WordSide where
  | boundary
  | noBoundary
  | start
  | finish
  | startHalf
  | finishHalf
  deriving DecidableEq, Repr

/-- Conditions on a position. -/
inductive Look where
  | textStart
  | textEnd
  | lineStart
  | lineEnd
  | anyLineStart
  | anyLineEnd
  | word (side : WordSide) (letters : CodeSet)
  deriving DecidableEq, Repr

/-- A pattern.  The capturing groups are numbered in the order in which they open. -/
inductive Node where
  | empty
  | text (cs : List Char)
  | chars (set : CodeSet)
  | look (l : Look)
  | seq (a b : Node)
  | alt (a b : Node)
  | loop (body : Node) (least : Nat) (most : Option Nat)
  | group (number : Nat) (body : Node)
  deriving DecidableEq, Repr, Inhabited

/-- Whether the condition on words holds between two characters. -/
def WordSide.holds (side : WordSide) (before after : Bool) : Bool :=
  match side with
  | boundary => before != after
  | noBoundary => before == after
  | start => !before && after
  | finish => before && !after
  | startHalf => !before
  | finishHalf => !after

/-- Whether the condition holds between two characters, of which either may be missing.  The
plain lines end with a line feed; the others end with a line feed, a carriage return, or the
two together, between which no line begins or ends. -/
def Look.holds (l : Look) (before after : Option Char) : Bool :=
  match l with
  | textStart => before.isNone
  | textEnd => after.isNone
  | lineStart => before.isNone || before == some '\n'
  | lineEnd => after.isNone || after == some '\n'
  | anyLineStart =>
    before.isNone || before == some '\n' || (before == some '\r' && after != some '\n')
  | anyLineEnd =>
    after.isNone || after == some '\r' || (after == some '\n' && before != some '\r')
  | word side letters =>
    let inWord := fun c : Option Char => c.any fun c => letters.contains c.toNat
    side.holds (inWord before) (inWord after)

/-- Whether the condition holds between two bytes of one character. -/
def Look.holdsInside : Look → Bool
  | word side letters => letters.isAscii && side.holds false false
  | _ => false

/-- A set of positions of a text. -/
abbrev Positions := Nat

/-- The positions before a character of the set. -/
def before (set : CodeSet) : List Char → Positions
  | [] => 0
  | c :: rest => (set.contains c.toNat).toNat + 2 * before set rest

/-- The positions where a condition holds, the last character before the text given. -/
def places (l : Look) (last : Option Char) : List Char → Positions
  | [] => (l.holds last none).toNat
  | c :: rest => (l.holds last (some c)).toNat + 2 * places l (some c) rest

/-- Applies `f` the given number of times, or until it changes nothing. -/
def settle (f : Positions → Positions) : Nat → Positions → Positions
  | 0, s => s
  | n + 1, s => if f s = s then s else settle f n (f s)

/-- Where one or more rounds of `f` lead, and no more than the given number.  The rounds still
to be gone begin at `new`; from the positions in `seen` they have begun before, when more of
them were left, and `found` is where they led. -/
def rounds (f : Positions → Positions) : Nat → Positions → Positions → Positions → Positions
  | 0, _, _, found => found
  | n + 1, seen, new, found =>
    if new = 0 then found
    else
      let next := f new
      let fresh := (next ||| seen) ^^^ seen
      rounds f n (seen ||| fresh) fresh (found ||| next)

/-- Where the character after each of the positions ends, if it is in the set. -/
def advance (text : List Char) (set : CodeSet) (s : Positions) : Positions :=
  if s = 0 then 0 else (s &&& before set text) <<< 1

/-- Where matches that begin at the given positions may end. -/
def ends (text : List Char) : Node → Positions → Positions
  | .empty, s => s
  | .text cs, s => cs.foldl (fun s c => advance text (CodeSet.single c) s) s
  | .chars set, s => advance text set s
  | .look l, s => if s = 0 then 0 else s &&& places l none text
  | .seq a b, s => ends text b (ends text a s)
  | .alt a b, s => ends text a s ||| ends text b s
  | .loop body least most, s =>
    let most := most.getD (least + text.length + 1)
    if s = 0 then 0
    else if least = 0 then s ||| rounds (ends text body) most s s 0
    else
      let begun := settle (ends text body) (least - 1) s
      rounds (ends text body) (most - (least - 1)) begun begun 0
  | .group _ body, s => ends text body s

def everywhere (text : List Char) : Positions := (1 <<< (text.length + 1)) - 1

namespace Node

/-- Whether the pattern matches between two bytes of one character. -/
def matchesInside : Node → Bool
  | empty => true
  | text _ => false
  | chars _ => false
  | look l => l.holdsInside
  | seq a b => a.matchesInside && b.matchesInside
  | alt a b => a.matchesInside || b.matchesInside
  | loop body least _ => least = 0 || body.matchesInside
  | group _ body => body.matchesInside

/-- Whether the pattern looks at words with letters outside ASCII. -/
def looksAtWords : Node → Bool
  | look (.word _ letters) => !letters.isAscii
  | seq a b => a.looksAtWords || b.looksAtWords
  | alt a b => a.looksAtWords || b.looksAtWords
  | loop body _ _ => body.looksAtWords
  | group _ body => body.looksAtWords
  | _ => false

/-- The pattern without the characters outside ASCII. -/
def onlyAscii : Node → Node
  | text cs => if cs.all (·.toNat < 0x80) then text cs else chars CodeSet.empty
  | chars set => chars (set.inter (CodeSet.span 0 0x7F))
  | seq a b => seq a.onlyAscii b.onlyAscii
  | alt a b => alt a.onlyAscii b.onlyAscii
  | loop body least most => loop body.onlyAscii least most
  | group number body => group number body.onlyAscii
  | node => node

/-- How many bytes of text are searched position by position if the pattern looks at words, so
that no match is passed over. -/
def shortText : Nat := 128

/-- The pattern as a search through the text sees it. -/
def seenIn (node : Node) (cs : List Char) : Node :=
  let bytes := cs.foldl (fun n c => n + c.utf8Size) 0
  if node.matchesInside && !(node.looksAtWords && bytes ≤ shortText) then node.onlyAscii else node

def isMatch (node : Node) (cs : List Char) : Bool :=
  ends cs (node.seenIn cs) (everywhere cs) != 0

/-- A loop around a node.  A body that is an endless loop itself of at most one required round
is not looped again: the rounds of the two loops are the rounds of one. -/
def loopAround (body : Node) (least : Nat) (most : Option Nat) : Node :=
  match body with
  | loop inner innerLeast none =>
    if innerLeast ≤ 1 && most != some 0 then loop inner (innerLeast * least) none
    else loop body least most
  | _ => loop body least most

/-- The same pattern without groups and without endless loops directly inside loops. -/
def simplify : Node → Node
  | seq a b => seq a.simplify b.simplify
  | alt a b => alt a.simplify b.simplify
  | loop body least most => loopAround body.simplify least most
  | group _ body => body.simplify
  | node => node

end Node

end TagRules.Pattern
