/-
  Addresses of the two families.

  An address is a number below two to the width of its family.  Addresses are
  ordered by family, then by number.
-/

namespace TagRules.Net

inductive Family where
  | v4
  | v6
  deriving DecidableEq, Repr, Inhabited

namespace Family

/-- The width of an address, in bits. -/
def bits : Family → Nat
  | v4 => 32
  | v6 => 128

/-- The narrower family comes first. -/
def order : Family → Family → Ordering
  | v4, v6 => .lt
  | v6, v4 => .gt
  | _, _ => .eq

end Family

/-- How many numbers there are of so many bits. -/
def blockSize (bits : Nat) : Nat := Nat.pow 2 bits

theorem blockSize_pos (bits : Nat) : 0 < blockSize bits := Nat.two_pow_pos bits

/-- An address of one family. -/
structure Address where
  family : Family
  number : Nat
  number_lt : number < blockSize family.bits
  deriving DecidableEq, Repr

namespace Address

instance : Inhabited Address := ⟨⟨.v4, 0, by decide⟩⟩

/-- By family, then by number. -/
def order (a b : Address) : Ordering :=
  (a.family.order b.family).then (compare a.number b.number)

/-- The parts of the given width that make up the address, highest first. -/
def parts (width : Nat) (a : Address) : List Nat :=
  (List.range (a.family.bits / width)).map fun i =>
    a.number / blockSize (a.family.bits - width * (i + 1)) % blockSize width

/-- The number made up of parts of the given width, highest first. -/
def ofParts (width : Nat) (parts : List Nat) : Nat :=
  parts.foldl (fun n part => n * blockSize width + part) 0

/-- The address of the family with this number, reduced to the width of the family. -/
def wrap (family : Family) (number : Nat) : Address :=
  ⟨family, number % blockSize family.bits, Nat.mod_lt _ (blockSize_pos _)⟩

end Address

end TagRules.Net
