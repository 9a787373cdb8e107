import TagRules.Text.Blank
import TagRules.Text.Digits

/-
  Sets of code points.

  A set is kept as its maximal runs in increasing order, so a set of a hundred
  thousand code points is a short list.  `ofSpans` brings any list of spans into
  this form, and the set operations go through it.  `ofTable` reads the notation
  of the property tables: blank-separated code points in hexadecimal, `41-5A` for
  a run, `100-12E/2` for every second code point of one.
-/

namespace TagRules.Unicode

/-- The code points from `first` to `last`, both included. -/
structure Span where
  first : Nat
  last : Nat
  deriving DecidableEq, Repr, Inhabited

/-- A set of code points: its maximal runs in increasing order. -/
structure CodeSet where
  spans : List Span
  deriving DecidableEq, Repr, Inhabited

namespace CodeSet

def top : Nat := 0x10FFFF

/-- Whether one of the spans, which are in increasing order, holds `c`. -/
def holds (c : Nat) : List Span → Bool
  | [] => false
  | s :: rest => if c < s.first then false else c ≤ s.last || holds c rest

def contains (set : CodeSet) (c : Nat) : Bool := holds c set.spans

/-- Joins spans that overlap or touch; `s` comes before all of the list. -/
def joinFrom (s : Span) : List Span → List Span
  | [] => [s]
  | t :: rest =>
    if t.first ≤ s.last + 1 then joinFrom ⟨s.first, max s.last t.last⟩ rest
    else s :: joinFrom t rest

/-- The set of all code points in some span of the list. -/
def ofSpans (spans : List Span) : CodeSet :=
  match (spans.filter (fun s => s.first ≤ s.last)).mergeSort (fun a b => a.first ≤ b.first) with
  | [] => ⟨[]⟩
  | s :: rest => ⟨joinFrom s rest⟩

def empty : CodeSet := ⟨[]⟩

def span (first last : Nat) : CodeSet := ofSpans [⟨first, last⟩]

def single (c : Char) : CodeSet := ⟨[⟨c.toNat, c.toNat⟩]⟩

def all : CodeSet := ⟨[⟨0, top⟩]⟩

def union (a b : CodeSet) : CodeSet := ofSpans (a.spans ++ b.spans)

/-- The gaps between spans in increasing order, from `start` on. -/
def gaps (start : Nat) : List Span → List Span
  | [] => if start ≤ top then [⟨start, top⟩] else []
  | s :: rest =>
    if start < s.first then ⟨start, s.first - 1⟩ :: gaps (s.last + 1) rest
    else gaps (s.last + 1) rest

/-- What the set does not hold. -/
def complement (set : CodeSet) : CodeSet := ⟨gaps 0 set.spans⟩

def inter (a b : CodeSet) : CodeSet := (a.complement.union b.complement).complement

def sdiff (a b : CodeSet) : CodeSet := a.inter b.complement

def symmDiff (a b : CodeSet) : CodeSet := (a.sdiff b).union (b.sdiff a)

def unionAll (sets : List CodeSet) : CodeSet := ofSpans (sets.flatMap CodeSet.spans)

def isAscii (set : CodeSet) : Bool := set.spans.all (·.last < 0x80)

def ofChars (cs : List Char) : CodeSet := ofSpans (cs.map fun c => ⟨c.toNat, c.toNat⟩)

/-- Reads one entry of a table: `41`, `41-5A` or `100-12E/2`. -/
def readEntry (cs : List Char) : List Span :=
  let first := Text.value 16 (cs.takeWhile Text.isHex)
  match cs.dropWhile Text.isHex with
  | '-' :: rest =>
    let last := Text.value 16 (rest.takeWhile Text.isHex)
    match rest.dropWhile Text.isHex with
    | '/' :: step =>
      let step := Text.value 10 step
      (List.range ((last - first) / step + 1)).map fun k => ⟨first + k * step, first + k * step⟩
    | _ => [⟨first, last⟩]
  | _ => [⟨first, first⟩]

/-- Reads a table, which is entries with blanks between them. -/
def ofTable (text : String) : CodeSet :=
  ofSpans ((Text.words text.toList).flatMap readEntry)

end CodeSet

end TagRules.Unicode
