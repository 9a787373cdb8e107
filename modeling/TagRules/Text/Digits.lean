/-
  Digits and numerals in a radix up to sixteen.

  A numeral is read most significant digit first.  `number?` accepts a nonempty
  run of digits and nothing else; `digits` writes a number without leading zeros.
-/

namespace TagRules.Text

/-- The value of a hexadecimal digit of either case. -/
def hexDigit? (c : Char) : Option Nat :=
  if '0' ≤ c ∧ c ≤ '9' then some (c.toNat - '0'.toNat)
  else if 'a' ≤ c ∧ c ≤ 'f' then some (c.toNat - 'a'.toNat + 10)
  else if 'A' ≤ c ∧ c ≤ 'F' then some (c.toNat - 'A'.toNat + 10)
  else none

def digit? (radix : Nat) (c : Char) : Option Nat :=
  (hexDigit? c).filter (· < radix)

def isDecimal (c : Char) : Bool := (digit? 10 c).isSome

def isHex (c : Char) : Bool := (hexDigit? c).isSome

/-- The number a list of digits stands for; other characters count as zero. -/
def value (radix : Nat) (cs : List Char) : Nat :=
  cs.foldl (fun n c => n * radix + (digit? radix c).getD 0) 0

/-- The number written by a nonempty list of digits, if it is one. -/
def number? (radix : Nat) (cs : List Char) : Option Nat :=
  if cs.isEmpty || !cs.all (fun c => (digit? radix c).isSome) then none
  else some (value radix cs)

/-- The digits of `n` in the given radix, small letters after nine. -/
def digits (radix n : Nat) : List Char := Nat.toDigits radix n

end TagRules.Text
