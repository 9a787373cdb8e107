import TagRules.Wire.Varint

/-
  Messages as sequences of fields.

  A field is a key and a payload.  The key has the number of the field and says how
  the payload is written: as a number of variable length, in four or eight bytes, as
  a length and so many bytes, or as a group, which is a sequence of fields up to a key
  that ends it.  Groups are only skipped here, but what is in them has to be well
  formed, and they may be nested only so deep.
-/

namespace TagRules.Wire

open Text

/-- What a field holds.  The fields of a group are not kept. -/
inductive Payload where
  | varint (n : Nat)
  | fixed (bytes : Bytes)
  | bytes (bytes : Bytes)
  | group
  deriving DecidableEq, Repr

/-- A field of a message. -/
structure MessageField where
  number : Nat
  payload : Payload
  deriving DecidableEq, Repr

/-- How a payload is written. -/
inductive Form where
  | varint
  | fixed64
  | bytes
  | groupStart
  | groupEnd
  | fixed32
  deriving DecidableEq, Repr

def Form.ofCode? : Nat → Option Form
  | 0 => some varint
  | 1 => some fixed64
  | 2 => some bytes
  | 3 => some groupStart
  | 4 => some groupEnd
  | 5 => some fixed32
  | _ => none

def Form.code : Form → Nat
  | varint => 0
  | fixed64 => 1
  | bytes => 2
  | groupStart => 3
  | groupEnd => 4
  | fixed32 => 5

/-- Splits off so many bytes, if there are so many. -/
def splitBytes? (n : Nat) (bytes : Bytes) : Option (Bytes × Bytes) :=
  if (bytes.take n).length = n then some (bytes.take n, bytes.drop n) else none

def keyMax : Nat := 0xFFFFFFFF

def readKey (bytes : Bytes) : Option (Nat × Form × Bytes) :=
  match readVarint bytes with
  | none => none
  | some (key, rest) =>
    if keyMax < key || key / 8 = 0 then none
    else (Form.ofCode? (key % 8)).map fun form => (key / 8, form, rest)

/-- Reads a payload that is no group. -/
def readPayload (form : Form) (bytes : Bytes) : Option (Payload × Bytes) :=
  match form with
  | .varint => (readVarint bytes).map fun (n, rest) => (.varint n, rest)
  | .fixed64 => (splitBytes? 8 bytes).map fun (b, rest) => (.fixed b, rest)
  | .fixed32 => (splitBytes? 4 bytes).map fun (b, rest) => (.fixed b, rest)
  | .bytes =>
    match readVarint bytes with
    | none => none
    | some (n, rest) => (splitBytes? n rest).map fun (b, rest) => (.bytes b, rest)
  | .groupStart | .groupEnd => none

theorem splitBytes?_length {n : Nat} {bytes b rest : Bytes}
    (h : splitBytes? n bytes = some (b, rest)) : rest.length ≤ bytes.length := by
  unfold splitBytes? at h
  split at h
  · simp at h
    rw [← h.2]
    simp
  · simp at h

theorem readKey_length {bytes rest : Bytes} {number : Nat} {form : Form}
    (h : readKey bytes = some (number, form, rest)) : rest.length < bytes.length := by
  unfold readKey at h
  split at h
  · simp at h
  · rename_i key left hk
    split at h
    · simp at h
    · simp only [Option.map_eq_some_iff, Prod.mk.injEq] at h
      obtain ⟨_, _, _, _, rfl⟩ := h
      exact readVarint_length hk

theorem readPayload_length {form : Form} {bytes rest : Bytes} {p : Payload}
    (h : readPayload form bytes = some (p, rest)) : rest.length ≤ bytes.length := by
  unfold readPayload at h
  split at h
  · simp only [Option.map_eq_some_iff, Prod.mk.injEq, Prod.exists] at h
    obtain ⟨n, left, hr, _, rfl⟩ := h
    exact Nat.le_of_lt (readVarint_length hr)
  · simp only [Option.map_eq_some_iff, Prod.mk.injEq, Prod.exists] at h
    obtain ⟨b, left, hr, _, rfl⟩ := h
    exact splitBytes?_length hr
  · simp only [Option.map_eq_some_iff, Prod.mk.injEq, Prod.exists] at h
    obtain ⟨b, left, hr, _, rfl⟩ := h
    exact splitBytes?_length hr
  · split at h
    · simp at h
    · rename_i n left hn
      simp only [Option.map_eq_some_iff, Prod.mk.injEq, Prod.exists] at h
      obtain ⟨b, left', hr, _, rfl⟩ := h
      exact Nat.le_trans (splitBytes?_length hr) (Nat.le_of_lt (readVarint_length hn))
  · simp at h
  · simp at h

/-- The fields of a message, of which the part that is left begins inside open groups.  Fields in
groups are left out, and a field may begin inside fewer than `depth` groups. -/
def readFields (depth : Nat) (groups : List Nat) (bytes : Bytes) : Option (List MessageField) :=
  match bytes with
  | [] => if groups.isEmpty then some [] else none
  | b :: rest =>
    match _h : readKey (b :: rest) with
    | none => none
    | some (number, form, left) =>
      if form == .groupEnd then
        match groups with
        | [] => none
        | inner :: outer => if inner = number then readFields depth outer left else none
      else if depth ≤ groups.length then none
      else if form == .groupStart then
        (readFields depth (number :: groups) left).map fun fields =>
          if groups.isEmpty then ⟨number, .group⟩ :: fields else fields
      else
        match _hp : readPayload form left with
        | none => none
        | some (payload, left) =>
          (readFields depth groups left).map fun fields =>
            if groups.isEmpty then ⟨number, payload⟩ :: fields else fields
termination_by bytes.length
decreasing_by
  · exact readKey_length _h
  · exact readKey_length _h
  · exact Nat.lt_of_le_of_lt (readPayload_length _hp) (readKey_length _h)

def writeKey (number : Nat) (form : Form) : Bytes := writeVarint (number * 8 + form.code)

def writeNumber (number n : Nat) : Bytes := writeKey number .varint ++ writeVarint n

def writeBytes (number : Nat) (bytes : Bytes) : Bytes :=
  writeKey number .bytes ++ writeVarint bytes.length ++ bytes

/-- Writes a field that holds a number, or nothing if it is zero. -/
def writeNonzero (number n : Nat) : Bytes := if n = 0 then [] else writeNumber number n

/-- Writes a field that holds bytes, or nothing if there are none. -/
def writeNonempty (number : Nat) (bytes : Bytes) : Bytes :=
  if bytes.isEmpty then [] else writeBytes number bytes

end TagRules.Wire
