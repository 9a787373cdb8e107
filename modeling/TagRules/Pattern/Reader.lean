import TagRules.Pattern.Automaton
import TagRules.Pattern.Token
import TagRules.Unicode.Folding

/-
  Patterns from their written form.

  The tokens are taken one by one, and the builder keeps what is still open: the
  groups, innermost first, with the alternatives and items read so far, and the
  brackets of a class.  Settings hold from where they are made to the end of their
  group.  A pattern is refused if it nests more than 250 deep or its automata take
  too much room.

  Without the Unicode setting a pattern would match bytes.  Text has no single
  bytes outside ASCII, so everything that could match one is refused there.
-/

namespace TagRules.Pattern

open Text Unicode

/-- The settings in force. -/
structure Settings where
  ignoreCase : Bool
  multiLine : Bool
  dotAll : Bool
  anyLine : Bool
  unicode : Bool
  deriving DecidableEq, Repr

namespace Settings

def initial : Settings := ⟨false, false, false, false, true⟩

def change (s : Settings) : Flag × Bool → Settings
  | (.ignoreCase, on) => { s with ignoreCase := on }
  | (.multiLine, on) => { s with multiLine := on }
  | (.dotAll, on) => { s with dotAll := on }
  | (.anyLine, on) => { s with anyLine := on }
  | (.unicode, on) => { s with unicode := on }
  | (.swapGreed, _) | (.verbose, _) => s

def changeAll (s : Settings) (changes : FlagChanges) : Settings := changes.foldl change s

/-- The set, closed under changes of case if case is ignored. -/
def fold (s : Settings) (set : CodeSet) : CodeSet :=
  if !s.ignoreCase then set else if s.unicode then foldCase set else foldCaseAscii set

/-- The set or what it leaves out; the latter has characters outside ASCII. -/
def negate? (s : Settings) (negated : Bool) (set : CodeSet) : Option CodeSet :=
  if !negated then some set else if s.unicode then some set.complement else none

end Settings

/-! Sets of characters -/

/-- The characters of a class with a letter of its own.  They do not depend on case. -/
def Shorthand.set (kind : Shorthand) (unicode : Bool) : CodeSet :=
  match kind, unicode with
  | .digit, true => decimalNumber
  | .digit, false => CodeSet.ofTable "30-39"
  | .space, true => whiteSpace
  | .space, false => CodeSet.ofTable "9-D 20"
  | .word, true => wordCharacters
  | .word, false => CodeSet.ofTable "30-39 41-5A 5F 61-7A"

/-- The characters a query stands for. -/
def Query.set? : Query → Option CodeSet
  | named name => named? name
  | valued property value => valued? property value

/-- The characters with a property, or those without. -/
def propertySet? (s : Settings) (query : Query) (negated : Bool) : Option CodeSet :=
  if s.unicode then query.set?.bind fun set => s.negate? negated (s.fold set) else none

/-- The characters a member of a class stands for. -/
def ClassItem.set? (s : Settings) : ClassItem → Option CodeSet
  | literal c => if s.unicode || c.toNat < 0x80 then some (CodeSet.single c) else none
  | range a b =>
    if s.unicode || b.toNat < 0x80 then some (CodeSet.span a.toNat b.toNat) else none
  | shorthand kind negated => s.negate? negated (kind.set s.unicode)
  | property query negated => propertySet? s query negated
  | ascii set negated => s.negate? negated (s.fold set)

/-- What an operator makes of the sets on its sides. -/
def ClassOp.apply (s : Settings) (op : ClassOp) (a b : CodeSet) : CodeSet :=
  match op with
  | inter => (s.fold a).inter (s.fold b)
  | diff => (s.fold a).sdiff (s.fold b)
  | symmDiff => (s.fold a).symmDiff (s.fold b)

/-! Atoms -/

/-- The characters a dot matches. -/
def dotSet (s : Settings) : CodeSet :=
  if s.dotAll then CodeSet.all
  else if s.anyLine then (CodeSet.ofTable "A D").complement
  else (CodeSet.ofTable "A").complement

/-- The condition an assertion makes. -/
def Assertion.look (s : Settings) : Assertion → Look
  | lineStart =>
    if !s.multiLine then .textStart else if s.anyLine then .anyLineStart else .lineStart
  | lineEnd => if !s.multiLine then .textEnd else if s.anyLine then .anyLineEnd else .lineEnd
  | textStart => .textStart
  | textEnd => .textEnd
  | word side => .word side (Shorthand.set .word s.unicode)

/-- The pattern of an atom. -/
def Atom.node? (s : Settings) : Atom → Option Node
  | literal c narrow =>
    if narrow && !s.unicode && 0x80 ≤ c.toNat then none
    else some (.ofSet (s.fold (CodeSet.single c)))
  | dot => if s.unicode then some (.ofSet (dotSet s)) else none
  | assertion a => some (.look (a.look s))
  | shorthand kind negated => (s.negate? negated (kind.set s.unicode)).map .ofSet
  | property query negated => (propertySet? s query negated).map .ofSet

/-! Building -/

/-- A pattern and how deep it nests. -/
structure Part where
  node : Node
  depth : Nat
  deriving Inhabited

namespace Part

/-- The depth of several parts put side by side. -/
def depthOf : List Part → Nat
  | [] => 0
  | [part] => part.depth
  | parts => 1 + (parts.map Part.depth).foldl max 0

def sequence (parts : List Part) : Part := ⟨.sequence (parts.map Part.node), depthOf parts⟩

def choice (parts : List Part) : Part := ⟨.choice (parts.map Part.node), depthOf parts⟩

end Part

/-- An open group: the settings to go back to, the number it captures under, the alternatives
and the items read so far, latest first, and whether the latest item may be repeated. -/
structure Frame where
  settings : Settings
  number : Option Nat
  alternatives : List Part
  items : List Part
  repeatable : Bool

namespace Frame

def start (settings : Settings) (number : Option Nat) : Frame := ⟨settings, number, [], [], false⟩

def push (frame : Frame) (part : Part) : Frame :=
  { frame with items := part :: frame.items, repeatable := true }

/-- The alternatives of the group, the last one closed. -/
def closed (frame : Frame) : List Part :=
  (Part.sequence frame.items.reverse :: frame.alternatives).reverse

def body (frame : Frame) : Part := Part.choice frame.closed

end Frame

/-- An open bracket: the operator that waits for its right side, with its left side, and the
members since, each side with its depth. -/
structure Bracket where
  negated : Bool
  left : Option (ClassOp × CodeSet × Nat)
  members : CodeSet
  count : Nat
  deepest : Nat

namespace Bracket

def start (negated : Bool) : Bracket := ⟨negated, none, CodeSet.empty, 0, 0⟩

def push (b : Bracket) (set : CodeSet) (depth : Nat) : Bracket :=
  { b with members := b.members.union set, count := b.count + 1, deepest := max b.deepest depth }

/-- What the class holds so far, with its depth. -/
def body (b : Bracket) (s : Settings) : CodeSet × Nat :=
  let depth := if b.count ≤ 1 then b.deepest else 1 + b.deepest
  match b.left with
  | none => (b.members, depth)
  | some (op, set, other) => (op.apply s set b.members, 1 + max other depth)

end Bracket

/-- What is open while the tokens are read, with the number of capturing groups so far and the
names among them. -/
structure Builder where
  settings : Settings
  frame : Frame
  outer : List Frame
  brackets : List Bracket
  groups : Nat
  names : List (List Char)

namespace Builder

def start : Builder := ⟨.initial, .start .initial none, [], [], 0, []⟩

def push (b : Builder) (part : Part) : Builder := { b with frame := b.frame.push part }

def closeBracket (b : Builder) : Option Builder :=
  match b.brackets with
  | [] => none
  | inner :: outer => do
    let (set, depth) := inner.body b.settings
    let set ← b.settings.negate? inner.negated (b.settings.fold set)
    match outer with
    | [] => some ({ b with brackets := [] }.push ⟨.ofSet set, 1 + depth⟩)
    | next :: rest => some { b with brackets := next.push set (1 + depth) :: rest }

def closeGroup (b : Builder) : Option Builder :=
  match b.outer with
  | [] => none
  | outer :: rest =>
    let body := b.frame.body
    let node := match b.frame.number with
      | some number => .group number body.node
      | none => body.node
    some { b with
      settings := b.frame.settings
      frame := outer.push ⟨node, 1 + body.depth⟩
      outer := rest }

def step (b : Builder) : Token → Option Builder
  | .atom a => (a.node? b.settings).map fun node => b.push ⟨node, 0⟩
  | .opens changes captures name =>
    let known := name.any b.names.contains
    if known then none
    else some { b with
      settings := b.settings.changeAll changes
      frame := .start b.settings (if captures then some (b.groups + 1) else none)
      outer := b.frame :: b.outer
      groups := if captures then b.groups + 1 else b.groups
      names := name.toList ++ b.names }
  | .closes => b.closeGroup
  | .bar =>
    let ended := Part.sequence b.frame.items.reverse
    some { b with frame := { b.frame with
      alternatives := ended :: b.frame.alternatives, items := [], repeatable := false } }
  | .directive changes =>
    let frame := b.frame.push ⟨.empty, 0⟩
    some { b with
      settings := b.settings.changeAll changes
      frame := { frame with repeatable := false } }
  | .times least most =>
    match b.frame.repeatable, b.frame.items with
    | true, part :: items =>
      let part := ⟨.repeated part.node least most, 1 + part.depth⟩
      some { b with frame := { b.frame with items := part :: items } }
    | _, _ => none
  | .classOpens negated => some { b with brackets := .start negated :: b.brackets }
  | .classItem item => do
    let set ← item.set? b.settings
    match b.brackets with
    | [] => none
    | inner :: rest => some { b with brackets := inner.push set 0 :: rest }
  | .classOp op =>
    match b.brackets with
    | [] => none
    | inner :: rest =>
      let (set, depth) := inner.body b.settings
      let opened : Bracket := ⟨inner.negated, some (op, set, depth), CodeSet.empty, 0, 0⟩
      some { b with brackets := opened :: rest }
  | .classCloses => b.closeBracket

/-- The pattern, if nothing is open any more. -/
def finish (b : Builder) : Option Part :=
  if b.outer.isEmpty && b.brackets.isEmpty then some b.frame.body else none

end Builder

/-- How deep a pattern may nest. -/
def depthLimit : Nat := 250

def Node.ofChars? (cs : List Char) : Option Node := do
  let tokens ← tokens? cs
  let builder ← tokens.foldlM Builder.step Builder.start
  let part ← builder.finish
  if part.depth ≤ depthLimit && part.node.fits then some part.node.simplify
  else none

end TagRules.Pattern

namespace TagRules

/-- A pattern with its written form. -/
structure Pattern where
  source : String
  node : Pattern.Node
  deriving DecidableEq, Repr

namespace Pattern

def ofString? (s : String) : Option Pattern :=
  (Node.ofChars? s.toList).map fun node => ⟨s, node⟩

def isMatch (p : Pattern) (text : List Char) : Bool := p.node.isMatch text

end Pattern

end TagRules
