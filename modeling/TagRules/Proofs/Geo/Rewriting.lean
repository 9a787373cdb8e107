import TagRules.Proofs.Geo.Messages

/-
  A file that was read can be written again, and is then read as the same.

  What is written may be longer than what was read: a negative number that was given with
  thirty-two bits is written with sixty-four.  But a field takes at most twice the room it
  took before, in every kind of message (`length_set`), so a message takes at most twice
  the room it was read from (`length_of_read`).  In a file of networks there are no
  negative numbers, and nothing gets longer.

  So the lengths that are written again can be written (`fits_of_readNetworkFile`,
  `fits_of_readDomainFile`), and `files_read_back` follows: both kinds of files survive
  being written and read, whatever is in them, and so does what was read from any bytes.
-/

namespace TagRules.Geo

open Text Wire

/-! ## Messages in general -/

section

variable {f : MessageField} {number : Nat}

theorem payload_of_bytes? {p : Payload} {b : Bytes} (h : bytes? p = some b) : p = .bytes b := by
  unfold bytes? at h
  split at h <;> cases h
  rfl

theorem payload_of_number? {p : Payload} {n : Nat} (h : number? p = some n) : p = .varint n := by
  unfold number? at h
  split at h <;> cases h
  rfl

theorem size_of_bytes? {b : Bytes} (h : bytes? f.payload = some b) :
    f.size = (writeBytes f.number b).length := by
  simp only [MessageField.size, payload_of_bytes? h]

theorem size_of_number? {n : Nat} (h : number? f.payload = some n) :
    f.size = (writeNumber f.number n).length := by
  simp only [MessageField.size, payload_of_number? h]

theorem length_nonempty_le (hn : f.number = number) {b : Bytes}
    (h : bytes? f.payload = some b) : (writeNonempty number b).length ≤ f.size := by
  rw [size_of_bytes? h, hn]
  exact length_writeNonempty_le number b

theorem length_number_mul {k : Nat} (hk : 0 < k) (hn : f.number = number) {m n : Nat}
    (h : number? f.payload = some n) (hm : (writeVarint m).length ≤ k * (writeVarint n).length) :
    (writeNumber number m).length ≤ k * f.size := by
  rw [size_of_number? h, hn]
  exact length_writeNumber_mul hk number hm

theorem length_number_le (hn : f.number = number) {m n : Nat} (h : number? f.payload = some n)
    (hm : m ≤ n) : (writeNumber number m).length ≤ f.size := by
  have hlength := length_writeVarint_mul (k := 1) Nat.one_pos (by omega : m ≤ 1 * n)
  have := length_number_mul Nat.one_pos hn h hlength
  omega

theorem length_bytes_mul {k : Nat} (hk : 0 < k) (hn : f.number = number) {b b' : Bytes}
    (h : bytes? f.payload = some b) (hb : b'.length ≤ k * b.length) :
    (writeBytes number b').length ≤ k * f.size := by
  rw [size_of_bytes? h, hn]
  exact length_writeBytes_mul hk number hb

theorem length_nonzero_le (hn : f.number = number) {m n : Nat} (h : number? f.payload = some n)
    (hm : m ≤ n) : (writeNonzero number m).length ≤ f.size :=
  Nat.le_trans (length_writeNonzero_le number m) (length_number_le hn h hm)

theorem length_text_le (hn : f.number = number) {s : String} (h : text? f.payload = some s) :
    (writeNonempty number (utf8 s)).length ≤ f.size := by
  obtain ⟨b, hb, hs⟩ := Option.bind_eq_some_iff.mp h
  rw [utf8_of_ofUtf8? hs]
  exact length_nonempty_le hn hb

end

theorem toNat_ne_zero_le (n : Nat) : (n != 0).toNat ≤ n := by
  by_cases hz : n = 0
  · simp [hz]
  · have := Bool.toNat_le (n != 0)
    omega

/-- If no field adds more than so many times its room, a message takes at most so many times the
room it was read from. -/
theorem length_of_readMessage {α : Type} {set : α → MessageField → Option α} {write : α → Bytes}
    {k : Nat}
    (hset : ∀ v f v', set v f = some v' → (write v').length ≤ (write v).length + k * f.size)
    {level : Nat} {start v : α} (hstart : write start = []) {bytes : Bytes}
    (h : readMessage level start set bytes = some v) : (write v).length ≤ k * bytes.length := by
  obtain ⟨fields, hfields, hfold⟩ := Option.bind_eq_some_iff.mp h
  have hsum : (write v).length ≤ (write start).length + k * (fields.map MessageField.size).sum := by
    -- By induction on the fields: each one starts from the message that the last one left.
    clear h hfields hstart
    induction fields generalizing start with
    | nil =>
      cases hfold
      exact Nat.le_add_right _ _
    | cons f rest ih =>
      obtain ⟨next, hnext, hrest⟩ := Option.bind_eq_some_iff.mp hfold
      have := hset start f next hnext
      have := ih hrest
      rw [List.map_cons, List.sum_cons, Nat.mul_add]
      omega
  rw [hstart] at hsum
  calc (write v).length ≤ 0 + k * (fields.map MessageField.size).sum := hsum
    _ ≤ k * bytes.length := by
      rw [Nat.zero_add]
      exact Nat.mul_le_mul_left k (room_of_readFields hfields).sum_le

/-! ## Networks -/

namespace NetworkRecord

theorem length_set {r r' : NetworkRecord} {f : MessageField} (h : set r f = some r') :
    r'.write.length ≤ r.write.length + 1 * f.size := by
  unfold set at h
  split at h
  · next hn =>
    obtain ⟨b, hb, rfl⟩ := Option.map_eq_some_iff.mp h
    have := length_nonempty_le hn hb
    simp only [write, List.length_append]
    omega
  · next hn =>
    obtain ⟨n, hnumber, rfl⟩ := Option.map_eq_some_iff.mp h
    have hle : (UInt32.ofNat n).toNat ≤ n := by
      rw [UInt32.toNat_ofNat']
      exact Nat.mod_le _ _
    have := length_nonzero_le hn hnumber hle
    simp only [write, List.length_append]
    omega
  · cases h
    exact Nat.le_add_right _ _

theorem length_of_read {bytes : Bytes} {r : NetworkRecord} (h : read bytes = some r) :
    r.write.length ≤ 1 * bytes.length :=
  length_of_readMessage (fun _ _ _ => length_set) rfl h

end NetworkRecord

namespace NetworkEntry

theorem length_set {e e' : NetworkEntry} {f : MessageField} (h : set e f = some e') :
    e'.write.length ≤ e.write.length + 1 * f.size := by
  unfold set at h
  split at h
  · next hn =>
    obtain ⟨code, htext, rfl⟩ := Option.map_eq_some_iff.mp h
    have := length_text_le hn htext
    simp only [write, List.length_append]
    omega
  · next hn =>
    obtain ⟨r, hread, rfl⟩ := Option.map_eq_some_iff.mp h
    obtain ⟨b, hb, hr⟩ := Option.bind_eq_some_iff.mp hread
    have := length_bytes_mul Nat.one_pos hn hb (NetworkRecord.length_of_read hr)
    simp only [write, List.length_append, List.flatMap_append, List.flatMap_singleton]
    omega
  · next hn =>
    obtain ⟨n, hnumber, rfl⟩ := Option.map_eq_some_iff.mp h
    have := length_nonzero_le hn hnumber (toNat_ne_zero_le n)
    simp only [write, List.length_append]
    omega
  · cases h
    exact Nat.le_add_right _ _

theorem length_of_read {bytes : Bytes} {e : NetworkEntry} (h : read bytes = some e) :
    e.write.length ≤ 1 * bytes.length :=
  length_of_readMessage (fun _ _ _ => length_set) (by simp [write, writeNonempty, writeNonzero]) h

end NetworkEntry

/-! ## Domain rules -/

namespace Attribute

theorem length_set {a a' : Attribute} {f : MessageField} (h : set a f = some a') :
    a'.write.length ≤ a.write.length + 2 * f.size := by
  unfold set at h
  split at h
  · next hn =>
    obtain ⟨key, htext, rfl⟩ := Option.map_eq_some_iff.mp h
    have := length_text_le hn htext
    simp only [write, List.length_append]
    omega
  · next hn =>
    obtain ⟨n, hnumber, rfl⟩ := Option.map_eq_some_iff.mp h
    have := length_number_le hn hnumber (toNat_ne_zero_le n)
    simp only [write, writeValue, List.length_append]
    omega
  · next hn =>
    obtain ⟨n, hnumber, rfl⟩ := Option.map_eq_some_iff.mp h
    have hle : (UInt64.ofNat n).toInt64.toUInt64.toNat ≤ n := by
      rw [UInt64.toUInt64_toInt64, UInt64.toNat_ofNat']
      exact Nat.mod_le _ _
    have := length_number_le hn hnumber hle
    simp only [write, writeValue, List.length_append]
    omega
  · cases h
    exact Nat.le_add_right _ _

theorem length_of_read {bytes : Bytes} {a : Attribute} (h : read bytes = some a) :
    a.write.length ≤ 2 * bytes.length :=
  length_of_readMessage (fun _ _ _ => length_set) (by simp [write, writeNonempty, writeValue]) h

end Attribute

namespace DomainRecord

theorem toNat_kind_of_lt {n : Nat} (h : n % 2 ^ 32 < 2 ^ 31) :
    (UInt32.ofNat n).toInt32.toInt64.toUInt64.toNat = n % 2 ^ 32 := by
  have hbits : (UInt32.ofNat n).toBitVec.toNat = n % 2 ^ 32 := UInt32.toNat_ofNat'
  have hsign : (UInt32.ofNat n).toBitVec.msb = false := by
    rw [BitVec.msb_eq_false_iff_two_mul_lt, hbits]
    omega
  rw [← UInt64.toNat_toBitVec, Int64.toBitVec_toUInt64, Int32.toBitVec_toInt64,
    UInt32.toBitVec_toInt32, BitVec.signExtend_eq_setWidth_of_msb_false hsign,
    BitVec.toNat_setWidth, hbits]
  omega

/-- A number that is negative in thirty-two bits takes ten bytes, and was read from at least five;
any other takes no more than it was read from. -/
theorem length_kind (n : Nat) :
    (writeVarint (UInt32.ofNat n).toInt32.toInt64.toUInt64.toNat).length ≤
      2 * (writeVarint n).length := by
  rcases Nat.lt_or_ge (n % 2 ^ 32) (2 ^ 31) with hsmall | hlarge
  · rw [toNat_kind_of_lt hsmall]
    exact length_writeVarint_mul (by omega) (by omega)
  · have hnew : (writeVarint (UInt32.ofNat n).toInt32.toInt64.toUInt64.toNat).length ≤ 9 + 1 :=
      length_writeVarint_le_iff.mpr (Nat.lt_trans (UInt64.toNat_lt _) (by omega))
    have hold : ¬ (writeVarint n).length ≤ 3 + 1 := by
      rw [length_writeVarint_le_iff]
      omega
    omega

theorem write_start : write ⟨0, "", []⟩ = [] := by
  show writeNonzero 1 (0 : Int32).toInt64.toUInt64.toNat ++ writeNonempty 2 (utf8 "") ++ [] = []
  rw [utf8_empty]
  rfl

theorem length_set {r r' : DomainRecord} {f : MessageField} (h : set r f = some r') :
    r'.write.length ≤ r.write.length + 2 * f.size := by
  unfold set at h
  split at h
  · next hn =>
    obtain ⟨n, hnumber, rfl⟩ := Option.map_eq_some_iff.mp h
    have hkind := length_number_mul (by omega) hn hnumber (length_kind n)
    have := length_writeNonzero_le 1 (UInt32.ofNat n).toInt32.toInt64.toUInt64.toNat
    simp only [write, List.length_append]
    omega
  · next hn =>
    obtain ⟨value, htext, rfl⟩ := Option.map_eq_some_iff.mp h
    have := length_text_le hn htext
    simp only [write, List.length_append]
    omega
  · next hn =>
    obtain ⟨a, hread, rfl⟩ := Option.map_eq_some_iff.mp h
    obtain ⟨b, hb, ha⟩ := Option.bind_eq_some_iff.mp hread
    have := length_bytes_mul (by omega) hn hb (Attribute.length_of_read ha)
    simp only [write, List.length_append, List.flatMap_append, List.flatMap_singleton]
    omega
  · cases h
    exact Nat.le_add_right _ _

theorem length_of_read {bytes : Bytes} {r : DomainRecord} (h : read bytes = some r) :
    r.write.length ≤ 2 * bytes.length :=
  length_of_readMessage (fun _ _ _ => length_set) write_start h

end DomainRecord

namespace DomainEntry

theorem length_set {e e' : DomainEntry} {f : MessageField} (h : set e f = some e') :
    e'.write.length ≤ e.write.length + 2 * f.size := by
  unfold set at h
  split at h
  · next hn =>
    obtain ⟨code, htext, rfl⟩ := Option.map_eq_some_iff.mp h
    have := length_text_le hn htext
    simp only [write, List.length_append]
    omega
  · next hn =>
    obtain ⟨r, hread, rfl⟩ := Option.map_eq_some_iff.mp h
    obtain ⟨b, hb, hr⟩ := Option.bind_eq_some_iff.mp hread
    have := length_bytes_mul (by omega) hn hb (DomainRecord.length_of_read hr)
    simp only [write, List.length_append, List.flatMap_append, List.flatMap_singleton]
    omega
  · cases h
    exact Nat.le_add_right _ _

theorem length_of_read {bytes : Bytes} {e : DomainEntry} (h : read bytes = some e) :
    e.write.length ≤ 2 * bytes.length :=
  length_of_readMessage (fun _ _ _ => length_set) (by simp [write, writeNonempty]) h

end DomainEntry

/-! ## Files -/

theorem mem_of_foldlM {α : Type} {read : Bytes → Option α} {fields : List MessageField}
    {start entries : List α} (h : fields.foldlM (setEntry read) start = some entries) :
    ∀ e ∈ entries, e ∈ start ∨ ∃ number b, ⟨number, .bytes b⟩ ∈ fields ∧ read b = some e := by
  induction fields generalizing start with
  | nil =>
    cases h
    exact fun e he => .inl he
  | cons f rest ih =>
    obtain ⟨next, hnext, hrest⟩ := Option.bind_eq_some_iff.mp h
    intro e he
    rcases ih hrest e he with hmem | ⟨number, b, hmem, hread⟩
    · unfold setEntry at hnext
      split at hnext
      · obtain ⟨new, hnew, rfl⟩ := Option.map_eq_some_iff.mp hnext
        obtain ⟨b, hb, hread⟩ := Option.bind_eq_some_iff.mp hnew
        rcases List.mem_append.mp hmem with hold | hsame
        · exact .inl hold
        · rw [List.mem_singleton.mp hsame]
          refine .inr ⟨f.number, b, ?_, hread⟩
          rw [← payload_of_bytes? hb]
          exact List.mem_cons_self
      · cases hnext
        exact .inl hmem
    · exact .inr ⟨number, b, List.mem_cons_of_mem f hmem, hread⟩

/-- Every entry was read from bytes of the file, whose length was written there. -/
theorem exists_of_readFile {α : Type} {read : Bytes → Option α} {bytes : Bytes}
    {entries : List α} (h : readMessage 0 [] (setEntry read) bytes = some entries) :
    ∀ e ∈ entries, ∃ b, Fits b ∧ b.length ≤ bytes.length ∧ read b = some e := by
  obtain ⟨fields, hfields, hfold⟩ := Option.bind_eq_some_iff.mp h
  have hroom := room_of_readFields hfields
  intro e he
  rcases mem_of_foldlM hfold e he with hstart | ⟨number, b, hmem, hread⟩
  · exact absurd hstart List.not_mem_nil
  · exact ⟨b, hroom.fits number b hmem, hroom.length_le hmem, hread⟩

theorem fits_of_readNetworkFile {bytes : Bytes} {entries : List NetworkEntry}
    (h : readNetworkFile bytes = some entries) : ∀ e ∈ entries, Fits e.write := by
  intro e he
  obtain ⟨b, hb, -, hread⟩ := exists_of_readFile h e he
  have hlength := NetworkEntry.length_of_read hread
  exact hb.mono (by omega)

theorem fits_of_readDomainFile {bytes : Bytes} {entries : List DomainEntry}
    (hbytes : bytes.length < 2 ^ 63) (h : readDomainFile bytes = some entries) :
    ∀ e ∈ entries, Fits e.write := by
  intro e he
  obtain ⟨b, -, hb, hread⟩ := exists_of_readFile h e he
  have hlength := DomainEntry.length_of_read hread
  unfold Fits
  omega

/-- A file of networks and a file of domain rules are read back from what is written for them,
whatever is in them, if the length of every entry can be written.  So a file that was read, from
any bytes, is the same when it is written again and read; the bytes of a file of domain rules, which
may get twice as long, have to be fewer than sixty-three bits can count. -/
theorem files_read_back :
    (∀ entries : List NetworkEntry, (∀ e ∈ entries, Fits e.write) →
        readNetworkFile (writeNetworkFile entries) = some entries) ∧
      (∀ entries : List DomainEntry, (∀ e ∈ entries, Fits e.write) →
        readDomainFile (writeDomainFile entries) = some entries) ∧
      (∀ bytes entries, readNetworkFile bytes = some entries →
        readNetworkFile (writeNetworkFile entries) = some entries) ∧
      ∀ bytes entries, bytes.length < 2 ^ 63 → readDomainFile bytes = some entries →
        readDomainFile (writeDomainFile entries) = some entries := by
  refine ⟨fun entries h => readNetworkFile_write h, fun entries h => readDomainFile_write h, ?_, ?_⟩
  · intro bytes entries h
    exact readNetworkFile_write (fits_of_readNetworkFile h)
  · intro bytes entries hbytes h
    exact readDomainFile_write (fits_of_readDomainFile hbytes h)

/-- A record of an unknown negative kind, with attributes without a value and with the least one, is
read back; and so is what was read from bytes that nobody here writes: a code given twice, a length
in a longer form and of more than thirty-two bits, an unknown group, and a negative kind of only
thirty-two bits. -/
theorem files_read_back_signed :
    let entry : DomainEntry :=
      ⟨"cn", [⟨-2, "a.b", [⟨"", none⟩, ⟨"k", some (.bool false)⟩,
        ⟨"m", some (.int Int64.minValue)⟩]⟩]⟩
    let netBytes : Bytes :=
      [0x0A, 25, 0x0A, 1, 0x78, 0x0A, 2, 0x63, 0x6E, 0x12, 0x8B, 0x00, 0x0A, 3, 1, 2, 3,
        0x10, 0xFF, 0xFF, 0xFF, 0xFF, 0x1F, 0x18, 5, 0x4B, 0x4C]
    let networks : List NetworkEntry := [⟨"cn", [⟨[1, 2, 3], 0xFFFFFFFF⟩], true⟩]
    let ruleBytes : Bytes := [0x0A, 8, 0x12, 6, 0x08, 0xFE, 0xFF, 0xFF, 0xFF, 0x0F]
    let rules : List DomainEntry := [⟨"", [⟨-2, "", []⟩]⟩]
    (∀ e ∈ [entry], Fits e.write) ∧ readDomainFile (writeDomainFile [entry]) = some [entry] ∧
      readNetworkFile netBytes = some networks ∧
      readNetworkFile (writeNetworkFile networks) = some networks ∧
      ruleBytes.length < 2 ^ 63 ∧ readDomainFile ruleBytes = some rules ∧
      readDomainFile (writeDomainFile rules) = some rules := by
  intro entry netBytes networks ruleBytes rules
  have hfits : ∀ e ∈ [entry], Fits e.write := by
    unfold Fits
    decide +kernel
  have hnetworks : readNetworkFile netBytes = some networks := by decide +kernel
  have hlength : ruleBytes.length < 2 ^ 63 := by decide
  have hrules : readDomainFile ruleBytes = some rules := by decide +kernel
  obtain ⟨-, hdomain, hnet, hrule⟩ := files_read_back
  exact ⟨hfits, hdomain [entry] hfits, hnetworks, hnet netBytes networks hnetworks, hlength, hrules,
    hrule ruleBytes rules hlength hrules⟩

end TagRules.Geo
