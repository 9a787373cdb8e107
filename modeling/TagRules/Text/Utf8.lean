/-
  Text from bytes.

  `ofUtf8?` reads well-formed UTF-8 and refuses anything else; `ofUtf8Lossy` reads
  any bytes and puts U+FFFD for every maximal part that begins a character and
  does not go on as one.  The second reader looks at one byte at a time and keeps
  only what it still expects, so a byte below 0x80 always stands for itself,
  whatever comes before it.
-/

namespace TagRules.Text

abbrev Bytes := List UInt8

def ofUtf8? (bytes : Bytes) : Option String := String.fromUTF8? ⟨bytes.toArray⟩

def utf8 (s : String) : Bytes := s.toUTF8.toList

theorem toList_loop (bytes : ByteArray) (i : Nat) (read : Bytes) :
    ByteArray.toList.loop bytes i read = read.reverse ++ bytes.data.toList.drop i := by
  fun_induction ByteArray.toList.loop bytes i read with
  | case1 i read hlt ih =>
    have hi : i < bytes.data.toList.length := hlt
    have hget : bytes.get! i = bytes.data.toList[i] := getElem!_pos bytes.data i hlt
    rw [ih, List.drop_eq_getElem_cons hi, List.reverse_cons, List.append_assoc, hget]
    rfl
  | case2 i read hge =>
    have hi : bytes.data.toList.length ≤ i := Nat.le_of_not_lt hge
    rw [List.drop_eq_nil_of_le hi, List.append_nil]

theorem toList_eq (bytes : ByteArray) : bytes.toList = bytes.data.toList := by
  unfold ByteArray.toList
  rw [toList_loop, List.reverse_nil, List.drop_zero, List.nil_append]

@[simp]
theorem utf8_empty : utf8 "" = [] := by
  rw [utf8, toList_eq]
  rfl

theorem ofUtf8?_utf8 (s : String) : ofUtf8? (utf8 s) = some s := by
  unfold ofUtf8? utf8 String.fromUTF8?
  rw [toList_eq, Array.toArray_toList]
  exact dif_pos s.isValidUTF8

theorem utf8_of_ofUtf8? {bytes : Bytes} {s : String} (h : ofUtf8? bytes = some s) :
    utf8 s = bytes := by
  unfold ofUtf8? String.fromUTF8? at h
  split at h
  · rw [← Option.some.inj h]
    unfold utf8
    rw [toList_eq]
    rfl
  · cases h

/-- What the next byte of a character begun must be: one of `more + 1` plain continuation
bytes, or the second byte after a lead byte that narrows it. -/
inductive Expected where
  | tail (more : Nat)
  | afterE0
  | afterED
  | afterF0
  | afterF4
  deriving DecidableEq, Repr

namespace Expected

/-- Whether the byte may come next. -/
def accepts (e : Expected) (b : UInt8) : Bool :=
  match e with
  | tail _ => 0x80 ≤ b && b ≤ 0xBF
  | afterE0 => 0xA0 ≤ b && b ≤ 0xBF
  | afterED => 0x80 ≤ b && b ≤ 0x9F
  | afterF0 => 0x90 ≤ b && b ≤ 0xBF
  | afterF4 => 0x80 ≤ b && b ≤ 0x8F

/-- What is expected once it has come, if the character goes on. -/
def next : Expected → Option Expected
  | tail 0 => none
  | tail (more + 1) => some (tail more)
  | afterE0 | afterED => some (tail 0)
  | afterF0 | afterF4 => some (tail 1)

end Expected

/-- What a byte that begins a character says about it. -/
inductive Lead where
  | whole (c : Char)
  | opens (bits : Nat) (e : Expected)
  | refused
  deriving DecidableEq, Repr

/-- Reads the first byte of a character. -/
def lead (b : UInt8) : Lead :=
  if b < 0x80 then .whole (Char.ofNat b.toNat)
  else if b < 0xC2 then .refused
  else if b < 0xE0 then .opens (b.toNat - 0xC0) (.tail 0)
  else if b == 0xE0 then .opens 0 .afterE0
  else if b == 0xED then .opens 0xD .afterED
  else if b < 0xF0 then .opens (b.toNat - 0xE0) (.tail 1)
  else if b == 0xF0 then .opens 0 .afterF0
  else if b < 0xF4 then .opens (b.toNat - 0xF0) (.tail 2)
  else if b == 0xF4 then .opens 4 .afterF4
  else .refused

/-- Stands for bytes that are no character. -/
def replacement : Char := '\uFFFD'

/-- Reads bytes after the beginning of a character: the bits read of it and what it still
expects. -/
def lossyAfter : Option (Nat × Expected) → Bytes → List Char
  | none, [] => []
  | some _, [] => [replacement]
  | none, b :: rest =>
    match lead b with
    | .whole c => c :: lossyAfter none rest
    | .opens bits e => lossyAfter (some (bits, e)) rest
    | .refused => replacement :: lossyAfter none rest
  | some (bits, e), b :: rest =>
    if e.accepts b then
      let bits := bits * 64 + b.toNat % 64
      match e.next with
      | some e => lossyAfter (some (bits, e)) rest
      | none => Char.ofNat bits :: lossyAfter none rest
    else
      match lead b with
      | .whole c => replacement :: c :: lossyAfter none rest
      | .opens bits e => replacement :: lossyAfter (some (bits, e)) rest
      | .refused => replacement :: replacement :: lossyAfter none rest

/-- Reads any bytes as text. -/
def ofUtf8Lossy (bytes : Bytes) : List Char := lossyAfter none bytes

end TagRules.Text
