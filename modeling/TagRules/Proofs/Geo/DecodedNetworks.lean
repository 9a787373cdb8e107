import TagRules.Proofs.Geo.Catalogs

/-
  What is decoded from a file of networks.

  A record has the bytes of an address and a length, and `NetworkRecord.Names` says which
  network that is.  The bytes are those of one address only, if there are as many as the
  family has (`address?_eq_some_iff`), so that a record names one network or none, and it
  names one exactly if its length fits the family (`exists_names_iff`).  Decoding a file
  keeps every code that is asked for and has an entry, and of the entries with a code,
  whatever its spelling, the last one alone (`IsLast`).  All the networks that its records
  name are kept with it and no others (`decodeNetworks_last`).
-/

namespace TagRules.Geo

open Net Text Wire

/-! ## Records -/

theorem parts_of_bytes {family : Family} {bytes : Bytes} (h : 8 * bytes.length = family.bits) :
    ((Address.wrap family (Address.ofParts 8 (bytes.map UInt8.toNat))).parts 8).map UInt8.ofNat =
      bytes := by
  have hb : ∀ part ∈ bytes.map UInt8.toNat, part < blockSize 8 := by
    intro part hpart
    obtain ⟨b, -, rfl⟩ := List.mem_map.mp hpart
    exact b.toNat_lt
  rw [Address.parts_wrap (by decide) hb (by rwa [List.length_map]), List.map_map]
  exact List.map_id'' (fun b => UInt8.ofNat_toNat) bytes

theorem address?_eq_some_iff {bytes : Bytes} {a : Address} :
    address? bytes = some a ↔ (a.parts 8).map UInt8.ofNat = bytes := by
  constructor
  · intro h
    unfold address? at h
    dsimp only at h
    split at h
    · next hl =>
      obtain rfl := Option.some.inj h
      exact parts_of_bytes (by rw [hl]; rfl)
    · split at h
      · next hl =>
        obtain rfl := Option.some.inj h
        exact parts_of_bytes (by rw [hl]; rfl)
      · cases h
  · rintro rfl
    exact address?_parts a

namespace NetworkRecord

/-- The record has the bytes of some address, highest first, and a length that fits, and the
network is the block of that length with the address in it. -/
def Names (r : NetworkRecord) (n : Network) : Prop :=
  ∃ (a : Address) (h : r.length.toNat ≤ a.family.bits),
    (a.parts 8).map UInt8.ofNat = r.address ∧ (⟨a, r.length.toNat, h⟩ : Network).truncate = n

theorem network?_eq_some_iff {r : NetworkRecord} {n : Network} :
    r.network? = some n ↔ r.Names n := by
  unfold network? Names Network.ofLength?
  constructor
  · intro h
    obtain ⟨a, ha, h⟩ := Option.bind_eq_some_iff.mp h
    obtain ⟨m, hm, rfl⟩ := Option.map_eq_some_iff.mp h
    split at hm
    · next hl =>
      obtain rfl := Option.some.inj hm
      exact ⟨a, hl, address?_eq_some_iff.mp ha, rfl⟩
    · cases hm
  · rintro ⟨a, hl, ha, rfl⟩
    refine Option.bind_eq_some_iff.mpr ⟨a, address?_eq_some_iff.mpr ha, ?_⟩
    rw [dif_pos hl, Option.map_some]

/-- The records that name a network: four bytes with a length up to 32, or sixteen with one up to
128. -/
theorem exists_names_iff (r : NetworkRecord) :
    (∃ n, r.Names n) ↔
      r.address.length = 4 ∧ r.length.toNat ≤ 32 ∨
        r.address.length = 16 ∧ r.length.toNat ≤ 128 := by
  constructor
  · rintro ⟨n, a, hl, ha, -⟩
    have hcount : r.address.length = a.family.bits / 8 := by
      rw [← ha, List.length_map, Address.length_parts]
    cases hf : a.family with
    | v4 =>
      rw [hf] at hl hcount
      exact .inl ⟨hcount, hl⟩
    | v6 =>
      rw [hf] at hl hcount
      exact .inr ⟨hcount, hl⟩
  · rintro (⟨hcount, hl⟩ | ⟨hcount, hl⟩)
    · exact ⟨_, .wrap .v4 _, hl, parts_of_bytes (by rw [hcount]; rfl), rfl⟩
    · exact ⟨_, .wrap .v6 _, hl, parts_of_bytes (by rw [hcount]; rfl), rfl⟩

end NetworkRecord

theorem NetworkEntry.mem_nets_iff {e : NetworkEntry} {n : Network} :
    n ∈ e.nets ↔ ∃ r ∈ e.networks, r.Names n := by
  unfold nets
  simp only [List.mem_filterMap, NetworkRecord.network?_eq_some_iff]

/-! ## Entries -/

section

variable {α β : Type} {code : α → String} {value : α → β} {tags : List String} {entries : List α}
  {key : String}

/-- The entry has a code, in some spelling, and none after it has. -/
def IsLast (code : α → String) (entries : List α) (key : String) (e : α) : Prop :=
  ∃ before after, entries = before ++ e :: after ∧ Tag.normalize (code e) = key ∧
    ∀ later ∈ after, Tag.normalize (code later) ≠ key

theorem lastValue_eq_some_iff {v : β} :
    lastValue code value entries key = some v ↔ ∃ e, IsLast code entries key e ∧ value e = v := by
  unfold lastValue IsLast
  rw [Option.map_eq_some_iff]
  refine exists_congr fun e => and_congr_left' ?_
  rw [List.find?_eq_some_iff_append]
  simp only [beq_iff_eq, Bool.not_eq_true', beq_eq_false_iff_ne]
  constructor
  · rintro ⟨hcode, after, before, heq, hafter⟩
    refine ⟨before.reverse, after.reverse, ?_, hcode, ?_⟩
    · rw [← List.reverse_reverse entries, heq]
      simp
    · exact fun later hlater => hafter later (List.mem_reverse.mp hlater)
  · rintro ⟨before, after, rfl, hcode, hafter⟩
    refine ⟨hcode, after.reverse, before.reverse, by simp, ?_⟩
    exact fun later hlater => hafter later (List.mem_reverse.mp hlater)

theorem isSome_lastValue :
    (lastValue code value entries key).isSome = true ↔
      ∃ e ∈ entries, Tag.normalize (code e) = key := by
  unfold lastValue
  rw [Option.isSome_map, List.find?_isSome]
  simp only [List.mem_reverse, beq_iff_eq]

theorem isWanted_iff :
    isWanted tags key = true ↔ tags = [] ∨ ∃ tag ∈ tags, Tag.normalize tag = key := by
  unfold isWanted
  simp

theorem mem_collect_iff :
    key ∈ collect code value tags entries ↔
      (tags = [] ∨ ∃ tag ∈ tags, Tag.normalize tag = key) ∧
        ∃ e ∈ entries, Tag.normalize (code e) = key := by
  have hlast : (lastValue code value entries key).isSome = true ↔
      ∃ e ∈ entries, Tag.normalize (code e) = key := isSome_lastValue
  rw [Std.ExtTreeMap.mem_iff_isSome_getElem?, getElem?_collect, ← isWanted_iff, ← hlast]
  split
  · next hwanted => simp [hwanted]
  · next hwanted => simp [hwanted]

theorem isLast_of_getElem?_collect {v : β} (h : (collect code value tags entries)[key]? = some v) :
    ∃ e, IsLast code entries key e ∧ value e = v := by
  rw [getElem?_collect] at h
  split at h
  · exact lastValue_eq_some_iff.mp h
  · cases h

end

/-! ## Files -/

/-- A file that can be read can be decoded for any tags.  What is found are the codes that are asked
for and have an entry; the networks of a code are those that the records of its last entry name,
and a record names one exactly if its bytes are an address and its length fits. -/
theorem decodeNetworks_last {bytes : Bytes} {entries : List NetworkEntry}
    (h : readNetworkFile bytes = some entries) (tags : List String) :
    ∃ found, decodeNetworks tags bytes = some found ∧
      (∀ code, code ∈ found ↔
        (tags = [] ∨ ∃ tag ∈ tags, Tag.normalize tag = code) ∧
          ∃ e ∈ entries, Tag.normalize e.code = code) ∧
      (∀ code nets, found[code]? = some nets → ∃ e, IsLast NetworkEntry.code entries code e ∧
        ∀ n, n ∈ nets ↔ ∃ r ∈ e.networks, r.Names n) ∧
      ∀ r : NetworkRecord, (∃ n, r.Names n) ↔
        r.address.length = 4 ∧ r.length.toNat ≤ 32 ∨
          r.address.length = 16 ∧ r.length.toNat ≤ 128 := by
  refine ⟨collect NetworkEntry.code NetworkEntry.nets tags entries, ?_, fun code => mem_collect_iff,
    ?_, NetworkRecord.exists_names_iff⟩
  · unfold decodeNetworks
    rw [h, Option.map_some]
  · intro code nets hnets
    obtain ⟨e, hlast, rfl⟩ := isLast_of_getElem?_collect hnets
    exact ⟨e, hlast, fun n => NetworkEntry.mem_nets_iff⟩

/-- Of two entries with one code the later one counts, without its records that name nothing. -/
theorem decodeNetworks_last_spelled :
    let there : Network := ⟨⟨.v4, 0x08080800, by decide⟩, 24, by decide⟩
    let last : NetworkEntry :=
      ⟨" CN", [⟨[8, 8, 8, 9], 24⟩, ⟨[1, 2, 3], 24⟩, ⟨[1, 2, 3, 4], 33⟩], false⟩
    let entries : List NetworkEntry :=
      [⟨"cn", [⟨[1, 0, 1, 0], 24⟩], false⟩, ⟨"us", [], false⟩, last]
    let bytes := writeNetworkFile entries
    readNetworkFile bytes = some entries ∧
      ∃ found, decodeNetworks ["Cn"] bytes = some found ∧ "CN" ∈ found ∧ "US" ∉ found ∧
        found["CN"]? = some [there] ∧
        ∃ e, IsLast NetworkEntry.code entries "CN" e ∧
          ∀ n, n ∈ [there] ↔ ∃ r ∈ e.networks, r.Names n := by
  intro there last entries bytes
  have hread : readNetworkFile bytes = some entries :=
    readNetworkFile_write (by unfold Fits; decide +kernel)
  obtain ⟨found, hfound, hcodes, hlast, -⟩ := decodeNetworks_last hread ["Cn"]
  have heq : found = collect NetworkEntry.code NetworkEntry.nets ["Cn"] entries := by
    unfold decodeNetworks at hfound
    rw [hread, Option.map_some] at hfound
    exact (Option.some.inj hfound).symm
  have hthere : found["CN"]? = some [there] := by
    rw [heq]
    decide +kernel
  refine ⟨hread, found, hfound, ?_, ?_, hthere, hlast "CN" [there] hthere⟩
  · exact (hcodes "CN").mpr ⟨by decide +kernel, last, by simp [entries], by decide +kernel⟩
  · rw [hcodes "US"]
    decide +kernel

/-- It is not so that a code has the networks of all its entries. -/
theorem not_decodeNetworks_all :
    ¬∀ (bytes : Bytes) (entries : List NetworkEntry) (tags : List String) (found : Networks),
      readNetworkFile bytes = some entries → decodeNetworks tags bytes = some found →
        ∀ code nets n, found[code]? = some nets →
          (n ∈ nets ↔ ∃ e ∈ entries, Tag.normalize e.code = code ∧ ∃ r ∈ e.networks, r.Names n) := by
  intro h
  let here : Network := ⟨⟨.v4, 0x01000100, by decide⟩, 24, by decide⟩
  let there : Network := ⟨⟨.v4, 0x08080800, by decide⟩, 24, by decide⟩
  let first : NetworkEntry := ⟨"CN", [⟨[1, 0, 1, 0], 24⟩], false⟩
  let entries : List NetworkEntry := [first, ⟨"cn", [⟨[8, 8, 8, 0], 24⟩], false⟩]
  have hread : readNetworkFile (writeNetworkFile entries) = some entries :=
    readNetworkFile_write (by unfold Fits; decide +kernel)
  have hfound : decodeNetworks [] (writeNetworkFile entries) =
      some (collect NetworkEntry.code NetworkEntry.nets [] entries) := by
    unfold decodeNetworks
    rw [hread, Option.map_some]
  have hthere : (collect NetworkEntry.code NetworkEntry.nets [] entries)["CN"]? = some [there] := by
    decide +kernel
  have hhere : NetworkRecord.Names ⟨[1, 0, 1, 0], 24⟩ here :=
    NetworkRecord.network?_eq_some_iff.mp (by decide +kernel)
  have hmem := (h _ entries [] _ hread hfound "CN" [there] here hthere).mpr
    ⟨first, by simp [entries], by decide +kernel, _, List.mem_singleton_self _, hhere⟩
  exact absurd hmem (by decide +kernel)

end TagRules.Geo
