import TagRules.Geo.Message
import TagRules.Proofs.Wire.Fields

/-
  The messages of the geographic files are read back from what is written for them.

  A message is written field by field, and read by giving a message with standing values
  its fields in order.  `Gives` says of some bytes what they make of a message that is
  given their fields.  A standing value, which is not written, is what the message had
  before (`Gives.nonempty`, `Gives.nonzero`); a message of which there are several is put
  behind those that were read before it (`Gives.repeated`); bytes one after the other do
  what they do one after the other (`Gives.append`).  So every kind of message comes back
  (`read_write`), the inner kinds first.

  All that is asked is that the whole is short enough for its length to be written, from
  which the same follows for every part.
-/

namespace TagRules.Geo

open Text Wire

/-! ## Giving a message its fields -/

/-- A message that is given the fields of the bytes becomes another. -/
def Gives {α : Type} (set : α → MessageField → Option α) (start : α) (bytes : Bytes) (after : α) :
    Prop :=
  ∃ fields, Written bytes fields ∧ fields.foldlM set start = some after

namespace Gives

variable {α β : Type} {set : α → MessageField → Option α} {start between after : α}

theorem append {b b' : Bytes} (h : Gives set start b between) (h' : Gives set between b' after) :
    Gives set start (b ++ b') after := by
  obtain ⟨fields, hw, hset⟩ := h
  obtain ⟨fields', hw', hset'⟩ := h'
  refine ⟨fields ++ fields', hw.append hw', ?_⟩
  rw [List.foldlM_append, hset]
  exact hset'

theorem read {b : Bytes} (h : Gives set start b after) {level : Nat} (hl : level < depthLimit) :
    readMessage level start set b = some after := by
  obtain ⟨fields, hw, hset⟩ := h
  unfold readMessage
  rw [hw.readFields (Nat.sub_pos_of_lt hl)]
  exact hset

theorem nil (start : α) : Gives set start [] start := ⟨[], .nil, rfl⟩

section

variable {number : Nat} (hpos : 0 < number) (hmax : number < 2 ^ 29)

include hpos hmax

theorem varint {n : Nat} (hn : n < 2 ^ 64) (h : set start ⟨number, .varint n⟩ = some after) :
    Gives set start (writeNumber number n) after := by
  refine ⟨_, written_number hpos hmax hn, ?_⟩
  rw [List.foldlM_cons, h]
  rfl

theorem bytes {b : Bytes} (hb : Fits b) (h : set start ⟨number, .bytes b⟩ = some after) :
    Gives set start (writeBytes number b) after := by
  refine ⟨_, written_bytes hpos hmax hb, ?_⟩
  rw [List.foldlM_cons, h]
  rfl

/-- A number that is left out was there before. -/
theorem nonzero {n : Nat} (hn : n < 2 ^ 64) (h : set start ⟨number, .varint n⟩ = some after)
    (hzero : n = 0 → start = after) : Gives set start (writeNonzero number n) after := by
  unfold writeNonzero
  split
  · next hn => exact hzero hn ▸ nil start
  · exact varint hpos hmax hn h

theorem nonempty {b : Bytes} (hb : Fits (writeNonempty number b))
    (h : set start ⟨number, .bytes b⟩ = some after) (hempty : b = [] → start = after) :
    Gives set start (writeNonempty number b) after := by
  unfold writeNonempty at hb ⊢
  split at hb
  · next he =>
    rw [if_pos he]
    exact hempty (List.isEmpty_iff.mp he) ▸ nil start
  · next he =>
    rw [if_neg he]
    exact bytes hpos hmax hb.right h

theorem repeated_after {write : β → Bytes} {push : List β → α} {xs : List β}
    (hb : ∀ x ∈ xs, Fits (write x))
    (h : ∀ x ∈ xs, ∀ before,
      set (push before) ⟨number, .bytes (write x)⟩ = some (push (before ++ [x])))
    (before : List β) :
    Gives set (push before) (xs.flatMap fun x => writeBytes number (write x))
      (push (before ++ xs)) := by
  induction xs generalizing before with
  | nil =>
    rw [List.append_nil]
    exact nil _
  | cons x rest ih =>
    have hx := bytes hpos hmax (hb x List.mem_cons_self) (h x List.mem_cons_self before)
    have hrest := ih (fun y hy => hb y (List.mem_cons_of_mem x hy))
      (fun y hy => h y (List.mem_cons_of_mem x hy)) (before ++ [x])
    rw [List.append_assoc] at hrest
    rw [List.flatMap_cons]
    exact hx.append hrest

theorem repeated {write : β → Bytes} (push : List β → α) {xs : List β}
    (hb : ∀ x ∈ xs, Fits (write x))
    (h : ∀ x ∈ xs, ∀ before,
      set (push before) ⟨number, .bytes (write x)⟩ = some (push (before ++ [x]))) :
    Gives set (push []) (xs.flatMap fun x => writeBytes number (write x)) (push xs) :=
  repeated_after hpos hmax hb h []

end

end Gives

theorem text?_utf8 (s : String) : text? (.bytes (utf8 s)) = some s := ofUtf8?_utf8 s

theorem eq_empty_of_utf8 {s : String} (h : utf8 s = []) : s = "" := by
  have hs := ofUtf8?_utf8 s
  rw [h, ← utf8_empty, ofUtf8?_utf8] at hs
  exact (Option.some.inj hs).symm

/-! ## Networks -/

namespace NetworkRecord

theorem read_write {r : NetworkRecord} (h : Fits r.write) : read r.write = some r := by
  obtain ⟨address, length⟩ := r
  have hlength : length.toNat < 2 ^ 64 := Nat.lt_trans length.toNat_lt (by omega)
  have haddress : Gives set ⟨[], 0⟩ (writeNonempty 1 address) ⟨address, 0⟩ :=
    .nonempty (by omega) (by omega) h.left rfl fun he => by rw [he]
  have hall : Gives set ⟨address, 0⟩ (writeNonzero 2 length.toNat) ⟨address, length⟩ := by
    refine .nonzero (by omega) (by omega) hlength (by simp [set, number?]) fun hz => ?_
    have hz' : length.toNat = (0 : UInt32).toNat := hz
    rw [UInt32.toNat_inj.mp hz']
  exact (haddress.append hall).read (by decide)

end NetworkRecord

namespace NetworkEntry

theorem read_write {e : NetworkEntry} (h : Fits e.write) : read e.write = some e := by
  obtain ⟨code, networks, isReversed⟩ := e
  have hcode : Gives set ⟨"", [], false⟩ (writeNonempty 1 (utf8 code)) ⟨code, [], false⟩ :=
    .nonempty (by omega) (by omega) h.left.left (by simp [set, text?_utf8]) fun he => by
      rw [eq_empty_of_utf8 he]
  have hnetworks : Gives set ⟨code, [], false⟩
      (networks.flatMap fun r => writeBytes 2 r.write) ⟨code, networks, false⟩ := by
    have hfits : ∀ r ∈ networks, Fits r.write := h.left.right.of_repeated
    refine .repeated (by omega) (by omega) (fun rs => (⟨code, rs, false⟩ : NetworkEntry)) hfits
      fun r hr before => ?_
    simp [set, bytes?, NetworkRecord.read_write (hfits r hr)]
  have hall : Gives set ⟨code, networks, false⟩ (writeNonzero 3 isReversed.toNat)
      ⟨code, networks, isReversed⟩ := by
    refine .nonzero (by omega) (by omega) (Nat.lt_of_le_of_lt isReversed.toNat_le (by omega)) ?_ ?_
    · cases isReversed <;> rfl
    · intro hz
      cases isReversed
      · rfl
      · cases hz
  exact ((hcode.append hnetworks).append hall).read (by decide)

end NetworkEntry

/-! ## Domain rules -/

namespace Attribute

theorem read_write {a : Attribute} (h : Fits a.write) : read a.write = some a := by
  obtain ⟨key, value⟩ := a
  have hkey : Gives set ⟨"", none⟩ (writeNonempty 1 (utf8 key)) ⟨key, none⟩ :=
    .nonempty (by omega) (by omega) h.left (by simp [set, text?_utf8]) fun he => by
      rw [eq_empty_of_utf8 he]
  have hall : Gives set ⟨key, none⟩ (writeValue value) ⟨key, value⟩ := by
    rcases value with _ | b | n
    · exact .nil _
    · refine .varint (by omega) (by omega) (Nat.lt_of_le_of_lt b.toNat_le (by omega)) ?_
      cases b <;> rfl
    · have hn : (UInt64.ofNat n.toUInt64.toNat).toInt64 = n := by simp
      refine .varint (by omega) (by omega) n.toUInt64.toNat_lt ?_
      simp only [set, number?, Option.map_some, hn]
  exact (hkey.append hall).read (by decide)

end Attribute

namespace DomainRecord

/-- A number of thirty-two bits comes back from sixty-four, by its low half. -/
theorem kind_of_written (kind : Int32) :
    (UInt32.ofNat kind.toInt64.toUInt64.toNat).toInt32 = kind := by
  rw [UInt32.ofNat_uInt64ToNat]
  apply Int32.toBitVec_inj.mp
  rw [UInt32.toBitVec_toInt32, UInt64.toBitVec_toUInt32, Int64.toBitVec_toUInt64,
    ← BitVec.signExtend_eq_setWidth_of_le _ (by decide), ← Int64.toBitVec_toInt32,
    Int32.toInt32_toInt64]

theorem read_write {r : DomainRecord} (h : Fits r.write) : read r.write = some r := by
  obtain ⟨kind, value, attributes⟩ := r
  have hkind :
      Gives set ⟨0, "", []⟩ (writeNonzero 1 kind.toInt64.toUInt64.toNat) ⟨kind, "", []⟩ := by
    refine .nonzero (by omega) (by omega) kind.toInt64.toUInt64.toNat_lt ?_ fun hz => ?_
    · simp only [set, number?, Option.map_some, kind_of_written]
    · have hk := kind_of_written kind
      rw [hz] at hk
      rw [← hk]
      rfl
  have hvalue : Gives set ⟨kind, "", []⟩ (writeNonempty 2 (utf8 value)) ⟨kind, value, []⟩ :=
    .nonempty (by omega) (by omega) h.left.right (by simp [set, text?_utf8]) fun he => by
      rw [eq_empty_of_utf8 he]
  have hall : Gives set ⟨kind, value, []⟩
      (attributes.flatMap fun a => writeBytes 3 a.write) ⟨kind, value, attributes⟩ := by
    have hfits : ∀ a ∈ attributes, Fits a.write := h.right.of_repeated
    refine .repeated (by omega) (by omega) (fun as => (⟨kind, value, as⟩ : DomainRecord)) hfits
      fun a ha before => ?_
    simp [set, bytes?, Attribute.read_write (hfits a ha)]
  exact ((hkind.append hvalue).append hall).read (by decide)

end DomainRecord

namespace DomainEntry

theorem read_write {e : DomainEntry} (h : Fits e.write) : read e.write = some e := by
  obtain ⟨code, domains⟩ := e
  have hcode : Gives set ⟨"", []⟩ (writeNonempty 1 (utf8 code)) ⟨code, []⟩ :=
    .nonempty (by omega) (by omega) h.left (by simp [set, text?_utf8]) fun he => by
      rw [eq_empty_of_utf8 he]
  have hall : Gives set ⟨code, []⟩ (domains.flatMap fun r => writeBytes 2 r.write)
      ⟨code, domains⟩ := by
    have hfits : ∀ r ∈ domains, Fits r.write := h.right.of_repeated
    refine .repeated (by omega) (by omega) (fun rs => (⟨code, rs⟩ : DomainEntry)) hfits
      fun r hr before => ?_
    simp [set, bytes?, DomainRecord.read_write (hfits r hr)]
  exact (hcode.append hall).read (by decide)

end DomainEntry

/-! ## Files -/

theorem readNetworkFile_write {entries : List NetworkEntry} (h : ∀ e ∈ entries, Fits e.write) :
    readNetworkFile (writeNetworkFile entries) = some entries := by
  have hall : Gives (setEntry NetworkEntry.read) [] (writeNetworkFile entries) entries := by
    refine .repeated (by omega) (by omega) id h fun e he before => ?_
    simp [setEntry, bytes?, NetworkEntry.read_write (h e he)]
  exact hall.read (by decide)

theorem readDomainFile_write {entries : List DomainEntry} (h : ∀ e ∈ entries, Fits e.write) :
    readDomainFile (writeDomainFile entries) = some entries := by
  have hall : Gives (setEntry DomainEntry.read) [] (writeDomainFile entries) entries := by
    refine .repeated (by omega) (by omega) id h fun e he before => ?_
    simp [setEntry, bytes?, DomainEntry.read_write (h e he)]
  exact hall.read (by decide)

end TagRules.Geo
