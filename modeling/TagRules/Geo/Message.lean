import TagRules.Wire.MessageField

/-
  The messages of the two geographic files.

  A file is one message, a sequence of entries with a code each.  An entry of the one
  file has networks, each an address in bytes and a length; an entry of the other has
  domain rules, each a kind, a value and attributes.

  Every message is read from its fields in order: a field with one value takes the
  last that is given, a field with several takes them all, and fields with unknown
  numbers mean nothing.  A field of a known number that is written in another form
  than it should makes the message unreadable.  Writing leaves out what has its
  standing value.
-/

namespace TagRules.Geo

open Text Wire

/-- How deep messages and groups may be nested. -/
def depthLimit : Nat := 100

/-- Reads a message, which is `level` deep in others, by giving it its fields in order. -/
def readMessage {α : Type} (level : Nat) (start : α) (set : α → MessageField → Option α)
    (bytes : Bytes) : Option α := do
  let fields ← readFields (depthLimit - level) [] bytes
  fields.foldlM set start

def number? : Payload → Option Nat
  | .varint n => some n
  | _ => none

def bytes? : Payload → Option Bytes
  | .bytes b => some b
  | _ => none

def text? (p : Payload) : Option String := (bytes? p).bind ofUtf8?

/-- A network: the bytes of an address and a length, neither of which need fit. -/
structure NetworkRecord where
  address : Bytes
  length : UInt32
  deriving DecidableEq, Repr

namespace NetworkRecord

def set (r : NetworkRecord) (f : MessageField) : Option NetworkRecord :=
  match f.number with
  | 1 => (bytes? f.payload).map fun b => { r with address := b }
  | 2 => (number? f.payload).map fun n => { r with length := UInt32.ofNat n }
  | _ => some r

def read (bytes : Bytes) : Option NetworkRecord := readMessage 2 ⟨[], 0⟩ set bytes

def write (r : NetworkRecord) : Bytes :=
  writeNonempty 1 r.address ++ writeNonzero 2 r.length.toNat

end NetworkRecord

/-- The networks of a code. -/
structure NetworkEntry where
  code : String
  networks : List NetworkRecord
  isReversed : Bool
  deriving DecidableEq, Repr

namespace NetworkEntry

def set (e : NetworkEntry) (f : MessageField) : Option NetworkEntry :=
  match f.number with
  | 1 => (text? f.payload).map fun code => { e with code }
  | 2 => ((bytes? f.payload).bind NetworkRecord.read).map fun r =>
      { e with networks := e.networks ++ [r] }
  | 3 => (number? f.payload).map fun n => { e with isReversed := n != 0 }
  | _ => some e

def read (bytes : Bytes) : Option NetworkEntry := readMessage 1 ⟨"", [], false⟩ set bytes

def write (e : NetworkEntry) : Bytes :=
  writeNonempty 1 (utf8 e.code) ++ e.networks.flatMap (fun r => writeBytes 2 r.write) ++
    writeNonzero 3 e.isReversed.toNat

end NetworkEntry

/-- The value of an attribute. -/
inductive AttributeValue where
  | bool (b : Bool)
  | int (n : Int64)
  deriving DecidableEq, Repr

/-- Something said about a domain rule. -/
structure Attribute where
  key : String
  value : Option AttributeValue
  deriving DecidableEq, Repr

namespace Attribute

def set (a : Attribute) (f : MessageField) : Option Attribute :=
  match f.number with
  | 1 => (text? f.payload).map fun key => { a with key }
  | 2 => (number? f.payload).map fun n => { a with value := some (.bool (n != 0)) }
  | 3 => (number? f.payload).map fun n => { a with value := some (.int (UInt64.ofNat n).toInt64) }
  | _ => some a

def read (bytes : Bytes) : Option Attribute := readMessage 3 ⟨"", none⟩ set bytes

/-- Writes a value, also one that is false or zero. -/
def writeValue : Option AttributeValue → Bytes
  | none => []
  | some (.bool b) => writeNumber 2 b.toNat
  | some (.int n) => writeNumber 3 n.toUInt64.toNat

def write (a : Attribute) : Bytes := writeNonempty 1 (utf8 a.key) ++ writeValue a.value

end Attribute

/-- A domain rule: the number of a kind, which need not be one of a known kind, and a value. -/
structure DomainRecord where
  kind : Int32
  value : String
  attributes : List Attribute
  deriving DecidableEq, Repr

namespace DomainRecord

def set (r : DomainRecord) (f : MessageField) : Option DomainRecord :=
  match f.number with
  | 1 => (number? f.payload).map fun n => { r with kind := (UInt32.ofNat n).toInt32 }
  | 2 => (text? f.payload).map fun value => { r with value }
  | 3 => ((bytes? f.payload).bind Attribute.read).map fun a =>
      { r with attributes := r.attributes ++ [a] }
  | _ => some r

def read (bytes : Bytes) : Option DomainRecord := readMessage 2 ⟨0, "", []⟩ set bytes

/-- Writes a record.  A negative number is written with sixty-four bits. -/
def write (r : DomainRecord) : Bytes :=
  writeNonzero 1 r.kind.toInt64.toUInt64.toNat ++ writeNonempty 2 (utf8 r.value) ++
    r.attributes.flatMap (fun a => writeBytes 3 a.write)

end DomainRecord

/-- The domain rules of a code. -/
structure DomainEntry where
  code : String
  domains : List DomainRecord
  deriving DecidableEq, Repr

namespace DomainEntry

def set (e : DomainEntry) (f : MessageField) : Option DomainEntry :=
  match f.number with
  | 1 => (text? f.payload).map fun code => { e with code }
  | 2 => ((bytes? f.payload).bind DomainRecord.read).map fun r =>
      { e with domains := e.domains ++ [r] }
  | _ => some e

def read (bytes : Bytes) : Option DomainEntry := readMessage 1 ⟨"", []⟩ set bytes

def write (e : DomainEntry) : Bytes :=
  writeNonempty 1 (utf8 e.code) ++ e.domains.flatMap (fun r => writeBytes 2 r.write)

end DomainEntry

/-- Gives a file of entries a field. -/
def setEntry {α : Type} (read : Bytes → Option α) (entries : List α) (f : MessageField) :
    Option (List α) :=
  match f.number with
  | 1 => ((bytes? f.payload).bind read).map fun e => entries ++ [e]
  | _ => some entries

def readNetworkFile (bytes : Bytes) : Option (List NetworkEntry) :=
  readMessage 0 [] (setEntry NetworkEntry.read) bytes

def writeNetworkFile (entries : List NetworkEntry) : Bytes :=
  entries.flatMap fun e => writeBytes 1 e.write

def readDomainFile (bytes : Bytes) : Option (List DomainEntry) :=
  readMessage 0 [] (setEntry DomainEntry.read) bytes

def writeDomainFile (entries : List DomainEntry) : Bytes :=
  entries.flatMap fun e => writeBytes 1 e.write

end TagRules.Geo
