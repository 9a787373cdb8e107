import TagRules.Text.Utf8

/-
  SHA-256: eight words that stand for some bytes.

  The bytes are filled up to whole blocks (`pad`), and each block is mixed into the
  eight words in sixty-four rounds (`compress`), of which every round takes one word
  of the block's `schedule` and one constant.
-/

namespace TagRules.Text

/-- Eight words of a digest, or of its making. -/
structure Digest where
  a : UInt32
  b : UInt32
  c : UInt32
  d : UInt32
  e : UInt32
  f : UInt32
  g : UInt32
  h : UInt32
  deriving DecidableEq, Repr

namespace Digest

/-- The digest before any block: the first fractional bits of the square roots of the first eight
primes. -/
def initial : Digest :=
  ⟨0x6a09e667, 0xbb67ae85, 0x3c6ef372, 0xa54ff53a, 0x510e527f, 0x9b05688c, 0x1f83d9ab,
    0x5be0cd19⟩

/-- The constants of the rounds: the first fractional bits of the cube roots of the first
sixty-four primes. -/
def roundConstants : List UInt32 :=
  [0x428a2f98, 0x71374491, 0xb5c0fbcf, 0xe9b5dba5, 0x3956c25b, 0x59f111f1, 0x923f82a4, 0xab1c5ed5,
    0xd807aa98, 0x12835b01, 0x243185be, 0x550c7dc3, 0x72be5d74, 0x80deb1fe, 0x9bdc06a7, 0xc19bf174,
    0xe49b69c1, 0xefbe4786, 0x0fc19dc6, 0x240ca1cc, 0x2de92c6f, 0x4a7484aa, 0x5cb0a9dc, 0x76f988da,
    0x983e5152, 0xa831c66d, 0xb00327c8, 0xbf597fc7, 0xc6e00bf3, 0xd5a79147, 0x06ca6351, 0x14292967,
    0x27b70a85, 0x2e1b2138, 0x4d2c6dfc, 0x53380d13, 0x650a7354, 0x766a0abb, 0x81c2c92e, 0x92722c85,
    0xa2bfe8a1, 0xa81a664b, 0xc24b8b70, 0xc76c51a3, 0xd192e819, 0xd6990624, 0xf40e3585, 0x106aa070,
    0x19a4c116, 0x1e376c08, 0x2748774c, 0x34b0bcb5, 0x391c0cb3, 0x4ed8aa4a, 0x5b9cca4f, 0x682e6ff3,
    0x748f82ee, 0x78a5636f, 0x84c87814, 0x8cc70208, 0x90befffa, 0xa4506ceb, 0xbef9a3f7, 0xc67178f2]

/-- The word turned to the right. -/
def turn (x : UInt32) (n : UInt32) : UInt32 := (x >>> n) ||| (x <<< (32 - n))

/-- The next word of a schedule of at least sixteen, the latest first. -/
def nextWord (latest : List UInt32) : UInt32 :=
  let early := latest.getD 14 0
  let late := latest.getD 1 0
  latest.getD 15 0 + (turn early 7 ^^^ turn early 18 ^^^ (early >>> 3)) +
    latest.getD 6 0 + (turn late 17 ^^^ turn late 19 ^^^ (late >>> 10))

/-- A schedule with more words, the latest first. -/
def extend : Nat → List UInt32 → List UInt32
  | 0, latest => latest
  | more + 1, latest => extend more (nextWord latest :: latest)

/-- The words that the rounds take from a block of sixteen, in order. -/
def schedule (block : List UInt32) : List UInt32 := (extend 48 block.reverse).reverse

def round (x : Digest) (constant word : UInt32) : Digest :=
  let sum := x.h + (turn x.e 6 ^^^ turn x.e 11 ^^^ turn x.e 25) +
    ((x.e &&& x.f) ^^^ (~~~x.e &&& x.g)) + constant + word
  let other := (turn x.a 2 ^^^ turn x.a 13 ^^^ turn x.a 22) +
    ((x.a &&& x.b) ^^^ (x.a &&& x.c) ^^^ (x.b &&& x.c))
  ⟨sum + other, x.a, x.b, x.c, x.d + sum, x.e, x.f, x.g⟩

def add (x y : Digest) : Digest :=
  ⟨x.a + y.a, x.b + y.b, x.c + y.c, x.d + y.d, x.e + y.e, x.f + y.f, x.g + y.g, x.h + y.h⟩

/-- Mixes a block in. -/
def compress (x : Digest) (block : List UInt32) : Digest :=
  let rounds := roundConstants.zip (schedule block)
  x.add (rounds.foldl (fun y (constant, word) => y.round constant word) x)

/-- The bytes of a number below `2 ^ 64`, the highest first. -/
def lengthBytes (n : Nat) : Bytes :=
  (List.range 8).map fun i => UInt8.ofNat (n / Nat.pow 2 (8 * (7 - i)))

/-- The bytes filled up to whole blocks of sixty-four: a one bit, zeros and the length in bits. -/
def pad (bytes : Bytes) : Bytes :=
  let zeros := List.replicate ((119 - bytes.length % 64) % 64) 0
  bytes ++ 0x80 :: zeros ++ lengthBytes (8 * bytes.length)

def words : Bytes → List UInt32
  | w :: x :: y :: z :: rest =>
    (w.toUInt32 <<< 24 ||| x.toUInt32 <<< 16 ||| y.toUInt32 <<< 8 ||| z.toUInt32) :: words rest
  | _ => []

/-- So many blocks of sixteen words. -/
def blocks : Nat → List UInt32 → List (List UInt32)
  | 0, _ => []
  | more + 1, ws => ws.take 16 :: blocks more (ws.drop 16)

end Digest

open Digest in
def sha256 (bytes : Bytes) : Digest :=
  let ws := Digest.words (pad bytes)
  (blocks (ws.length / 16) ws).foldl compress initial

example : sha256 [0x61, 0x62, 0x63] =
    ⟨0xba7816bf, 0x8f01cfea, 0x414140de, 0x5dae2223, 0xb00361a3, 0x96177a9c, 0xb410ff61,
      0xf20015ad⟩ := by
  decide +kernel

end TagRules.Text
