import Mathlib.Algebra.GroupWithZero.Nat
import TagRules.Proofs.Wire.Varint
import TagRules.Wire.MessageField

/-
  The fields of a message are read back from what is written for them.

  `Written` relates bytes to fields: wherever a message may go on, the bytes are read as
  these fields, and reading goes on after them.  What is written for one field is related
  to that field (`written_number`, `written_bytes`), and what is written one after the
  other to the fields one after the other (`Written.append`).  The length of the bytes of
  a field has to fit sixty-four bits (`Fits`); that is the only limit there is.

  Bytes from elsewhere may be read as the same fields and be longer: they may have
  unknown groups and numbers in a longer form.  `room_of_readFields` says that the fields take no
  more room when they are written again.
-/

namespace TagRules.Wire

open Text

/-- The length can be written with sixty-four bits. -/
def Fits (bytes : Bytes) : Prop := bytes.length < 2 ^ 64

theorem Fits.mono {bytes more : Bytes} (h : Fits more) (hl : bytes.length ≤ more.length) :
    Fits bytes := Nat.lt_of_le_of_lt hl h

theorem Fits.left {b b' : Bytes} (h : Fits (b ++ b')) : Fits b := h.mono (by simp)

theorem Fits.right {b b' : Bytes} (h : Fits (b ++ b')) : Fits b' := h.mono (by simp)

theorem Fits.of_repeated {α : Type} {number : Nat} {write : α → Bytes} {xs : List α}
    (h : Fits (xs.flatMap fun x => writeBytes number (write x))) : ∀ x ∈ xs, Fits (write x) := by
  induction xs with
  | nil => exact fun x hx => absurd hx List.not_mem_nil
  | cons y rest ih =>
    rw [List.flatMap_cons] at h
    intro x hx
    rcases List.mem_cons.mp hx with rfl | hx
    · exact h.left.right
    · exact ih h.right x hx

/-! ## One field -/

theorem Form.ofCode?_code (form : Form) : Form.ofCode? form.code = some form := by
  cases form <;> rfl

theorem Form.code_of_ofCode? {code : Nat} {form : Form} (h : Form.ofCode? code = some form) :
    form.code = code := by
  unfold Form.ofCode? at h
  split at h <;> cases h <;> rfl

theorem Form.code_lt (form : Form) : form.code < 8 := by cases form <;> decide

theorem readKey_writeKey {number : Nat} (hpos : 0 < number) (hmax : number < 2 ^ 29) (form : Form)
    (rest : Bytes) : readKey (writeKey number form ++ rest) = some (number, form, rest) := by
  have hcode := form.code_lt
  have hnumber : (number * 8 + form.code) / 8 = number := by omega
  have hform : (number * 8 + form.code) % 8 = form.code := by omega
  have hkey : ¬ (keyMax < number * 8 + form.code || number = 0 : Bool) = true := by
    unfold keyMax
    simp only [Bool.or_eq_true, decide_eq_true_eq]
    omega
  unfold readKey writeKey
  rw [readVarint_writeVarint (by omega)]
  dsimp only
  rw [hnumber, hform, if_neg hkey, Form.ofCode?_code]
  rfl

theorem readPayload_number {n : Nat} (hn : n < 2 ^ 64) (rest : Bytes) :
    readPayload .varint (writeVarint n ++ rest) = some (.varint n, rest) := by
  unfold readPayload
  rw [readVarint_writeVarint hn]
  rfl

theorem readPayload_bytes {b : Bytes} (hb : Fits b) (rest : Bytes) :
    readPayload .bytes (writeVarint b.length ++ b ++ rest) = some (.bytes b, rest) := by
  unfold readPayload
  rw [List.append_assoc, readVarint_writeVarint hb]
  simp [splitBytes?]

theorem readFields_field {depth number : Nat} {bytes left rest : Bytes} {form : Form} {p : Payload}
    (hd : 0 < depth) (hkey : readKey bytes = some (number, form, left))
    (hp : readPayload form left = some (p, rest)) :
    readFields depth [] bytes = (readFields depth [] rest).map (⟨number, p⟩ :: ·) := by
  cases bytes with
  | nil => cases hkey
  | cons b tail =>
    -- A group has no payload, so the key neither ends one nor begins one.
    have hend : (form == .groupEnd) = false := by
      cases form with
      | groupEnd => cases hp
      | varint | fixed64 | bytes | groupStart | fixed32 => rfl
    have hstart : (form == .groupStart) = false := by
      cases form with
      | groupStart => cases hp
      | varint | fixed64 | bytes | groupEnd | fixed32 => rfl
    rw [readFields]
    split
    · next hnone =>
      rw [hkey] at hnone
      cases hnone
    · next number' form' left' hsome =>
      rw [hkey] at hsome
      cases hsome
      have hopen : ¬ depth ≤ ([] : List Nat).length := Nat.not_le.mpr hd
      rw [hend, hstart, if_neg Bool.false_ne_true, if_neg hopen, if_neg Bool.false_ne_true]
      split
      · next hnone =>
        rw [hp] at hnone
        cases hnone
      · next p' rest' hsome =>
        rw [hp] at hsome
        cases hsome
        rfl

/-! ## Fields one after the other -/

/-- Wherever a message may go on, it goes on with these fields. -/
def Written (bytes : Bytes) (fields : List MessageField) : Prop :=
  ∀ depth rest, 0 < depth →
    readFields depth [] (bytes ++ rest) = (readFields depth [] rest).map (fields ++ ·)

namespace Written

theorem nil : Written [] [] := by
  intro depth rest _
  simp

theorem append {b b' : Bytes} {fields fields' : List MessageField} (h : Written b fields)
    (h' : Written b' fields') : Written (b ++ b') (fields ++ fields') := by
  intro depth rest hd
  rw [List.append_assoc, h depth _ hd, h' depth _ hd, Option.map_map]
  congr 1
  funext later
  exact (List.append_assoc _ _ _).symm

/-- A message of which nothing else follows has these fields. -/
theorem readFields {bytes : Bytes} {fields : List MessageField} (h : Written bytes fields)
    {depth : Nat} (hd : 0 < depth) : readFields depth [] bytes = some fields := by
  have hall := h depth [] hd
  rw [List.append_nil] at hall
  rw [hall, Wire.readFields]
  simp

end Written

section

variable {number : Nat} (hpos : 0 < number) (hmax : number < 2 ^ 29)

include hpos hmax

theorem written_number {n : Nat} (hn : n < 2 ^ 64) :
    Written (writeNumber number n) [⟨number, .varint n⟩] := by
  intro depth rest hd
  have hkey := readKey_writeKey hpos hmax .varint (writeVarint n ++ rest)
  unfold writeNumber
  rw [List.append_assoc, readFields_field hd hkey (readPayload_number hn rest)]
  rfl

theorem written_bytes {b : Bytes} (hb : Fits b) :
    Written (writeBytes number b) [⟨number, .bytes b⟩] := by
  intro depth rest hd
  have hkey := readKey_writeKey hpos hmax .bytes (writeVarint b.length ++ b ++ rest)
  unfold writeBytes
  rw [List.append_assoc, List.append_assoc, ← List.append_assoc (writeVarint b.length),
    readFields_field hd hkey (readPayload_bytes hb rest)]
  rfl

end

/-! ## The room that fields take -/

/-- How many bytes are written for a field; other payloads than numbers and bytes are not kept. -/
def MessageField.size (f : MessageField) : Nat :=
  match f.payload with
  | .varint n => (writeNumber f.number n).length
  | .bytes b => (writeBytes f.number b).length
  | .fixed _ | .group => 0

theorem length_splitBytes? {n : Nat} {bytes b rest : Bytes}
    (h : splitBytes? n bytes = some (b, rest)) :
    b.length = n ∧ b.length + rest.length = bytes.length := by
  unfold splitBytes? at h
  split at h
  · next hn =>
    cases h
    refine ⟨hn, ?_⟩
    rw [← List.length_append, List.take_append_drop]
  · cases h

theorem length_writeKey_of_read {bytes left : Bytes} {number : Nat} {form : Form}
    (h : readKey bytes = some (number, form, left)) :
    (writeKey number form).length + left.length ≤ bytes.length := by
  unfold readKey at h
  split at h
  · cases h
  · next key rest hread =>
    split at h
    · cases h
    · simp only [Option.map_eq_some_iff, Prod.mk.injEq] at h
      obtain ⟨form', hform, rfl, rfl, rfl⟩ := h
      have hkey : key / 8 * 8 + form'.code = key := by
        rw [Form.code_of_ofCode? hform, Nat.div_add_mod']
      unfold writeKey
      rw [hkey]
      exact length_writeVarint_of_read hread

/-- A field takes no more room than it was read from, and its bytes fit. -/
theorem size_le_of_read {bytes left rest : Bytes} {number : Nat} {form : Form} {p : Payload}
    (hkey : readKey bytes = some (number, form, left))
    (hp : readPayload form left = some (p, rest)) :
    MessageField.size ⟨number, p⟩ + rest.length ≤ bytes.length ∧ ∀ b, p = .bytes b → Fits b := by
  have hk := length_writeKey_of_read hkey
  have hrest := readPayload_length hp
  -- A number may have been read from a longer form than the one it is written in.
  cases form with
  | varint =>
    simp only [readPayload, Option.map_eq_some_iff, Prod.mk.injEq, Prod.exists] at hp
    obtain ⟨n, left', hread, rfl, rfl⟩ := hp
    have := length_writeVarint_of_read hread
    simp only [MessageField.size, writeNumber, List.length_append]
    exact ⟨by omega, fun b h => nomatch h⟩
  | bytes =>
    unfold readPayload at hp
    dsimp only at hp
    split at hp
    · cases hp
    · next n left' hread =>
      simp only [Option.map_eq_some_iff, Prod.mk.injEq, Prod.exists] at hp
      obtain ⟨b, rest', hsplit, rfl, rfl⟩ := hp
      obtain ⟨rfl, hlength⟩ := length_splitBytes? hsplit
      have := length_writeVarint_of_read hread
      simp only [MessageField.size, writeBytes, List.length_append]
      refine ⟨by omega, fun b' h => ?_⟩
      cases h
      exact readVarint_lt hread
  | fixed64 | fixed32 =>
    simp only [readPayload, Option.map_eq_some_iff, Prod.mk.injEq, Prod.exists] at hp
    obtain ⟨b, left', -, rfl, rfl⟩ := hp
    simp only [MessageField.size]
    exact ⟨by omega, fun b h => nomatch h⟩
  | groupStart | groupEnd => cases hp

theorem length_writeNonempty_le (number : Nat) (b : Bytes) :
    (writeNonempty number b).length ≤ (writeBytes number b).length := by
  unfold writeNonempty
  split
  · exact Nat.zero_le _
  · exact Nat.le_refl _

theorem length_writeBytes_mul {k : Nat} (hk : 0 < k) (number : Nat) {b b' : Bytes}
    (h : b'.length ≤ k * b.length) :
    (writeBytes number b').length ≤ k * (writeBytes number b).length := by
  have hlength := length_writeVarint_mul hk h
  have hkey := Nat.le_mul_of_pos_left (writeKey number .bytes).length hk
  unfold writeBytes
  simp only [List.length_append, Nat.mul_add]
  omega

theorem length_writeNonzero_le (number n : Nat) :
    (writeNonzero number n).length ≤ (writeNumber number n).length := by
  unfold writeNonzero
  split
  · exact Nat.zero_le _
  · exact Nat.le_refl _

theorem length_writeNumber_mul {k : Nat} (hk : 0 < k) (number : Nat) {m n : Nat}
    (h : (writeVarint m).length ≤ k * (writeVarint n).length) :
    (writeNumber number m).length ≤ k * (writeNumber number n).length := by
  have hkey := Nat.le_mul_of_pos_left (writeKey number .varint).length hk
  unfold writeNumber
  simp only [List.length_append, Nat.mul_add]
  omega

/-- The fields take at most so much room, and all their bytes fit. -/
structure Room (room : Nat) (fields : List MessageField) : Prop where
  sum_le : (fields.map MessageField.size).sum ≤ room
  fits : ∀ number b, ⟨number, .bytes b⟩ ∈ fields → Fits b

namespace Room

variable {room : Nat} {fields : List MessageField}

theorem nil : Room 0 [] := ⟨Nat.le_refl 0, fun _ _ h => absurd h List.not_mem_nil⟩

theorem mono {more : Nat} (h : Room room fields) (hle : room ≤ more) : Room more fields :=
  ⟨Nat.le_trans h.sum_le hle, h.fits⟩

theorem cons {f : MessageField} (h : Room room fields) (hf : ∀ b, f.payload = .bytes b → Fits b) :
    Room (f.size + room) (f :: fields) := by
  constructor
  · rw [List.map_cons, List.sum_cons]
    exact Nat.add_le_add_left h.sum_le _
  · intro number b hmem
    rcases List.mem_cons.mp hmem with rfl | hmem
    · exact hf b rfl
    · exact h.fits number b hmem

theorem length_le (h : Room room fields) {number : Nat} {b : Bytes}
    (hmem : ⟨number, .bytes b⟩ ∈ fields) : b.length ≤ room := by
  have hsum := h.sum_le
  obtain ⟨before, after, rfl⟩ := List.append_of_mem hmem
  simp only [List.map_append, List.map_cons, List.sum_append, List.sum_cons, MessageField.size,
    writeBytes, List.length_append] at hsum
  omega

/-- A field that stands in a group is not kept, and takes no room. -/
theorem cons_if {f : MessageField} (h : Room room fields) (hf : ∀ b, f.payload = .bytes b → Fits b)
    (kept : Bool) : Room (f.size + room) (if kept then f :: fields else fields) := by
  split
  · exact h.cons hf
  · exact h.mono (Nat.le_add_left _ _)

end Room

/-- The fields of a message take no more room than they were read from. -/
theorem room_of_readFields {depth : Nat} {groups : List Nat} {bytes : Bytes}
    {fields : List MessageField} (h : readFields depth groups bytes = some fields) :
    Room bytes.length fields := by
  fun_induction readFields depth groups bytes generalizing fields with
  | case1 => exact Option.some.inj h ▸ .nil
  | case2 | case3 | case4 | case6 | case7 | case9 => cases h
  | case5 _ _ _ _ _ _ _ hkey ih =>
    -- the end of a group
    exact (ih h).mono (Nat.le_of_lt (readKey_length hkey))
  | case8 groups b rest number form left hkey _ _ _ ih =>
    -- the beginning of one, which is kept without its fields
    obtain ⟨inner, hinner, rfl⟩ := Option.map_eq_some_iff.mp h
    have hroom := (ih hinner).mono (Nat.le_of_lt (readKey_length hkey))
    simpa [MessageField.size] using
      hroom.cons_if (f := ⟨number, .group⟩) (fun b hb => nomatch hb) groups.isEmpty
  | case10 groups b rest number form left hkey _ _ _ payload left' hp ih =>
    obtain ⟨later, hlater, rfl⟩ := Option.map_eq_some_iff.mp h
    obtain ⟨hsize, hfits⟩ := size_le_of_read hkey hp
    exact ((ih hlater).cons_if (f := ⟨number, payload⟩) hfits groups.isEmpty).mono hsize

end TagRules.Wire
