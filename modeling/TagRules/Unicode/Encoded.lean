import TagRules.Unicode.CodeSet

/-
  Spans of code points, byte by byte.

  The encodings of the code points of a span do not all have one length, and the
  bytes of them are not independent.  `strands` cuts a span into pieces whose
  encodings are exactly the choices of one byte from each of a few ranges.  A
  piece is cut where the length of the encoding changes and wherever the last
  bytes do not run through all of their values.
-/

namespace TagRules.Unicode

/-- The bytes from `first` to `last`, both included. -/
structure ByteRange where
  first : Nat
  last : Nat
  deriving DecidableEq, Repr, Inhabited

/-- Byte ranges of which every choice of bytes encodes a code point. -/
abbrev Strand := List ByteRange

/-- The bytes that encode a code point. -/
def encode (c : Nat) : List Nat :=
  let tail := fun (n : Nat) => 0x80 + n % 64
  if c < 0x80 then [c]
  else if c < 0x800 then [0xC0 + c / 64, tail c]
  else if c < 0x10000 then [0xE0 + c / 4096, tail (c / 64), tail c]
  else [0xF0 + c / 262144, tail (c / 4096), tail (c / 64), tail c]

namespace Span

/-- Where to cut a span that has parts of several blocks of the given size and does not begin
and end with a whole one. -/
def blockCut? (s : Span) (size : Nat) : Option Nat :=
  if s.first / size = s.last / size then none
  else if s.first % size ≠ 0 then some (s.first / size * size + size - 1)
  else if s.last % size ≠ size - 1 then some (s.last / size * size - 1)
  else none

/-- The last code point of the first part of a span that has to be cut. -/
def cut? (s : Span) : Option Nat :=
  ([0x7F, 0x7FF, 0xFFFF].find? fun p => s.first ≤ p && p < s.last).or
    (if s.last < 0x80 then none else [64, 4096, 262144].findSome? s.blockCut?)

/-- The parts of a span that need not be cut, in increasing order. -/
def pieces (s : Span) : List Span :=
  match s.cut? with
  | none => [s]
  | some p =>
    if s.first ≤ p ∧ p < s.last then pieces ⟨s.first, p⟩ ++ pieces ⟨p + 1, s.last⟩ else [s]
termination_by s.last - s.first

/-- The byte ranges of a span that need not be cut. -/
def strand (s : Span) : Strand := List.zipWith ByteRange.mk (encode s.first) (encode s.last)

end Span

/-- The encodings of a set, in increasing order. -/
def CodeSet.strands (set : CodeSet) : List Strand :=
  set.spans.flatMap fun s => s.pieces.map Span.strand

end TagRules.Unicode
