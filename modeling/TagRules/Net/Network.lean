import TagRules.Net.Address

/-
  Networks: blocks of addresses.

  A network is an address with a length, the number of leading bits that all its
  members share.  It keeps the address as it was given; `base` is the first address
  of the block.  One network covers another when its block contains the other's
  (`covers`), which is a statement about two ranges of numbers of one family.

  `order` compares networks by their first address, then the broader first, so a
  network comes before everything inside it.
-/

namespace TagRules.Net

/-- An address and the number of leading bits that make out its block. -/
structure Network where
  address : Address
  length : Nat
  length_le : length ≤ address.family.bits
  deriving DecidableEq, Repr

namespace Network

instance : Inhabited Network := ⟨⟨default, 0, Nat.zero_le _⟩⟩

def family (n : Network) : Family := n.address.family

/-- How many addresses the block has. -/
def size (n : Network) : Nat := blockSize (n.family.bits - n.length)

/-- The number of the block's first address. -/
def first (n : Network) : Nat := n.address.number - n.address.number % n.size

/-- The number of the block's last address. -/
def last (n : Network) : Nat := n.first + (n.size - 1)

theorem first_le_number (n : Network) : n.first ≤ n.address.number := Nat.sub_le _ _

theorem first_lt (n : Network) : n.first < blockSize n.family.bits :=
  Nat.lt_of_le_of_lt n.first_le_number n.address.number_lt

/-- The block's first address. -/
def base (n : Network) : Address := ⟨n.family, n.first, n.first_lt⟩

/-- The network written with the first address of its block. -/
def truncate (n : Network) : Network := ⟨n.base, n.length, n.length_le⟩

/-- Whether every address of `b` is an address of `a`. -/
def covers (a b : Network) : Bool :=
  a.family == b.family && a.first ≤ b.first && b.last ≤ a.last

def host (a : Address) : Network := ⟨a, a.family.bits, Nat.le_refl _⟩

def isHost (n : Network) : Bool := n.length == n.family.bits

/-- By first address, then the broader first. -/
def order (a b : Network) : Ordering :=
  (a.base.order b.base).then (compare a.length b.length)

/-- Whether `a` does not come after `b`. -/
def le (a b : Network) : Bool := a.order b != .gt

/-- The network of an address and a length, if the length fits the family. -/
def ofLength? (a : Address) (length : Nat) : Option Network :=
  if h : length ≤ a.family.bits then some ⟨a, length, h⟩ else none

end Network

end TagRules.Net
