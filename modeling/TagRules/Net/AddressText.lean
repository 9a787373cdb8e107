import TagRules.Net.Address
import TagRules.Text.Digits

/-
  The written forms of addresses.

  An IPv4 address is written as four numbers with points between them, an IPv6
  address as eight hexadecimal groups, of which the longest run of zero groups is
  left out (the first of the longest, and only if it has two or more); an IPv6
  address that stands for an IPv4 address ends with the IPv4 form.

  Reading is by grammar: a reader takes a list of characters and returns what it
  read with the characters after it.  Two grammars are in use.  `AddressStyle.plain`
  is the usual one.  `AddressStyle.relaxed` also takes numbers with leading zeros in
  an IPv4 address, and a `::` that leaves out nothing.
-/

namespace TagRules.Net

open Text

/-! Writing -/

/-- The start and length of the longest run of zeros, the first of the longest.  `at` is the
place of the first element, and `start`, `length` describe the run that ends before it. -/
def longestZeros (place start length : Nat) (best : Nat × Nat) : List Nat → Nat × Nat
  | [] => best
  | 0 :: rest =>
    let start := if length = 0 then place else start
    let best := if best.2 < length + 1 then (start, length + 1) else best
    longestZeros (place + 1) start (length + 1) best rest
  | (_ + 1) :: rest => longestZeros (place + 1) start 0 best rest

/-- Decimal numbers with points between them. -/
def dotted (parts : List Nat) : List Char :=
  List.intercalate ['.'] (parts.map (digits 10))

/-- Hexadecimal groups with colons between them. -/
def colons (groups : List Nat) : List Char :=
  List.intercalate [':'] (groups.map (digits 16))

namespace Address

/-- The IPv4 address an IPv6 address stands for, if it is one of those. -/
def mapped? (a : Address) : Option Address :=
  if a.family = .v6 ∧ a.number / blockSize 32 = 0xFFFF then some (wrap .v4 a.number) else none

/-- The eight groups of an IPv6 address. -/
def writeGroups (groups : List Nat) : List Char :=
  let (start, length) := longestZeros 0 0 0 (0, 0) groups
  if 1 < length then
    colons (groups.take start) ++ [':', ':'] ++ colons (groups.drop (start + length))
  else colons groups

def write (a : Address) : List Char :=
  match a.family with
  | .v4 => dotted (a.parts 8)
  | .v6 =>
    match a.mapped? with
    | some inner => [':', ':', 'f', 'f', 'f', 'f', ':'] ++ dotted (inner.parts 8)
    | none => writeGroups (a.parts 16)

instance : ToString Address := ⟨fun a => String.ofList a.write⟩

end Address

/-! Reading -/

/-- What a grammar of addresses allows beyond the usual. -/
structure AddressStyle where
  paddedNumbers : Bool
  emptyElision : Bool

namespace AddressStyle

/-- The usual grammar. -/
def plain : AddressStyle := ⟨false, false⟩

/-- The grammar of networks. -/
def relaxed : AddressStyle := ⟨true, true⟩

end AddressStyle

/-- A reader of something at the start of a text. -/
abbrev Reader (α : Type) := List Char → Option (α × List Char)

def readChar (c : Char) : Reader Unit
  | [] => none
  | d :: rest => if d = c then some ((), rest) else none

/-- Reads all digits that come, if there are some and no more than `most`. -/
def readNumber (radix most : Nat) : Reader (List Char) := fun cs =>
  let run := cs.takeWhile fun c => (digit? radix c).isSome
  if run.isEmpty || most < run.length then none
  else some (run, cs.drop run.length)

def readOctet (style : AddressStyle) : Reader Nat := fun cs => do
  let (run, rest) ← readNumber 10 3 cs
  if !style.paddedNumbers && run.head? = some '0' && 1 < run.length then none
  else if value 10 run < 256 then some (value 10 run, rest)
  else none

def readOctets (style : AddressStyle) : Reader (List Nat) := fun cs => do
  let (a, cs) ← readOctet style cs
  let ((), cs) ← readChar '.' cs
  let (b, cs) ← readOctet style cs
  let ((), cs) ← readChar '.' cs
  let (c, cs) ← readOctet style cs
  let ((), cs) ← readChar '.' cs
  let (d, cs) ← readOctet style cs
  some ([a, b, c, d], cs)

def readGroup : Reader Nat := fun cs => do
  let (run, rest) ← readNumber 16 4 cs
  some (value 16 run, rest)

/-- Reads `inner`, after a colon unless it comes first. -/
def afterColon {α : Type} (first : Bool) (inner : Reader α) : Reader α := fun cs =>
  if first then inner cs
  else do
    let ((), rest) ← readChar ':' cs
    inner rest

/-- Reads up to `room` groups.  Where there is room for two, an IPv4 address may stand for the
last two; the answer tells whether one did. -/
def readGroups (style : AddressStyle) (first : Bool) : Nat → List Char → List Nat × Bool × List Char
  | 0, cs => ([], false, cs)
  | room + 1, cs =>
    match if room = 0 then none else afterColon first (readOctets style) cs with
    | some (octets, rest) =>
      ([ofPair octets 0, ofPair octets 2], true, rest)
    | none =>
      match afterColon first readGroup cs with
      | none => ([], false, cs)
      | some (group, rest) =>
        let (groups, ended, rest) := readGroups style false room rest
        (group :: groups, ended, rest)
where
  /-- The group that two numbers of an IPv4 address make up. -/
  ofPair (octets : List Nat) (i : Nat) : Nat :=
    octets.getD i 0 * 256 + octets.getD (i + 1) 0

def readSixteens (style : AddressStyle) : Reader (List Nat) := fun cs =>
  let (head, ended, rest) := readGroups style true 8 cs
  if head.length = 8 then some (head, rest)
  else if ended then none
  else do
    let ((), rest) ← readChar ':' rest
    let ((), rest) ← readChar ':' rest
    let room := if style.emptyElision then 8 - head.length else 7 - head.length
    let (tail, _, rest) := readGroups style true room rest
    some (head ++ List.replicate (8 - head.length - tail.length) 0 ++ tail, rest)

def readV4 (style : AddressStyle) : Reader Address := fun cs => do
  let (octets, rest) ← readOctets style cs
  some (Address.wrap .v4 (Address.ofParts 8 octets), rest)

def readV6 (style : AddressStyle) : Reader Address := fun cs => do
  let (groups, rest) ← readSixteens style cs
  some (Address.wrap .v6 (Address.ofParts 16 groups), rest)

/-- What a reader makes of a whole text. -/
def whole {α : Type} (read : Reader α) (cs : List Char) : Option α :=
  match read cs with
  | some (a, []) => some a
  | _ => none

namespace Address

/-- The address a text is, in the usual grammar. -/
def ofChars? (cs : List Char) : Option Address :=
  match readV4 .plain cs with
  | some (a, rest) => if rest.isEmpty then some a else none
  | none => whole (readV6 .plain) cs

def ofString? (s : String) : Option Address := ofChars? s.toList

end Address

end TagRules.Net
