import TagRules.Net.AddressText
import TagRules.Net.Network
import TagRules.Text.Blank

/-
  The written form of networks: an address, a slash, a length.

  `Network.ofChars?` reads exactly this form, with the relaxed grammar for the
  address.  `Network.ofRule?` is the reader for rules and queries: it drops blanks
  at the ends, also takes a bare address in the usual grammar, which stands for its
  host network, and writes the network with the first address of its block.
-/

namespace TagRules.Net

open Text

namespace Network

def write (n : Network) : List Char := n.address.write ++ '/' :: digits 10 n.length

instance : ToString Network := ⟨fun n => String.ofList n.write⟩

/-- Reads a slash and a length of at most `most` digits after an address. -/
def readLength (most : Nat) (a : Address) : Reader Network := fun cs => do
  let ((), cs) ← readChar '/' cs
  let (run, rest) ← readNumber 10 most cs
  let n ← ofLength? a (value 10 run)
  some (n, rest)

/-- The network a text is, its address kept as written. -/
def ofChars? (cs : List Char) : Option Network :=
  (whole (fun cs => do
    let (a, cs) ← readV4 .relaxed cs
    readLength 2 a cs) cs).or
  (whole (fun cs => do
    let (a, cs) ← readV6 .relaxed cs
    readLength 3 a cs) cs)

def ofString? (s : String) : Option Network := ofChars? s.toList

/-- The network that a rule or a query names. -/
def ofRule? (cs : List Char) : Option Network :=
  let cs := trim cs
  match ofChars? cs with
  | some n => some n.truncate
  | none => (Address.ofChars? cs).map host

end Network

end TagRules.Net
