import Std.Data.ExtTreeMap
import TagRules.Rules.NetworkRules

/-
  Addresses that stand in for clients.

  A client is bound by its address or by a network it is in.  Both bindings are
  entries of one map, under the written form of the address or of the network; the
  networks are also kept in a list, so the one that covers a client can be found.
  `finish` sorts that list and drops the entries of the networks inside others.
-/

namespace TagRules

open Net

/-- Bindings by written form, and the networks among them. -/
structure ClientBindings where
  targets : Std.ExtTreeMap String Address
  ranges : NetworkRules

namespace ClientBindings

def empty : ClientBindings := ⟨∅, NetworkRules.empty⟩

instance : Inhabited ClientBindings := ⟨empty⟩

/-- Binds a client by what it is called, blanks at the ends dropped. -/
def bindAddress (b : ClientBindings) (client : String) (target : Address) : ClientBindings :=
  { b with targets := b.targets.insert (String.ofList (Text.trim client.toList)) target }

/-- Binds a network. -/
def bindRange (b : ClientBindings) (n : Network) (target : Address) : ClientBindings :=
  ⟨b.targets.insert (toString n.truncate) target, b.ranges.add n⟩

/-- Binds a network if the text has a slash, and a client otherwise. -/
def bind? (b : ClientBindings) (client : String) (target : Address) : Option ClientBindings :=
  if client.toList.contains '/' then
    (Network.ofRule? client.toList).map fun n => b.bindRange n target
  else some (b.bindAddress client target)

/-- Removes the entries of the networks that the sorted ranges no longer have, and counts the
entries removed. -/
def dropNested (ranges : NetworkRules) :
    List Network → Std.ExtTreeMap String Address → Std.ExtTreeMap String Address × Nat
  | [], targets => (targets, 0)
  | n :: rest, targets =>
    if ranges.find? n == some n then dropNested ranges rest targets
    else
      let (left, count) := dropNested ranges rest (targets.erase (toString n))
      (left, count + (targets.contains (toString n)).toNat)

/-- Sorts the ranges and drops the bindings of nested ones; also says how many were dropped. -/
def finish (b : ClientBindings) : ClientBindings × Nat :=
  let (ranges, dropped) := b.ranges.sort
  if dropped = 0 then ({ b with ranges }, 0)
  else
    let (targets, count) := dropNested ranges b.ranges.toList b.targets
    (⟨targets, ranges⟩, count)

/-- The address that stands in for a client: that of the client as written, that of its
address, or that of the network it is in. -/
def resolve (b : ClientBindings) (client : String) : Option Address :=
  b.targets[client]?.or do
    let query ← Network.ofRule? client.toList
    let direct := if query.isHost then b.targets[toString query.address]? else none
    direct.or do
      let range ← b.ranges.find? query
      b.targets[toString range]?

def covers (b : ClientBindings) (n : Network) : Bool := b.ranges.covers n

def size (b : ClientBindings) : Nat := b.targets.size

/-- A binding as it is listed. -/
def entryText (client : String) (target : Address) : String := client ++ " -> " ++ toString target

def toList (b : ClientBindings) : List String :=
  (b.targets.toList.map fun (client, target) => entryText client target).mergeSort
    (fun x y => compare x y != .gt)

end ClientBindings

end TagRules
