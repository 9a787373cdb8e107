import Mathlib.Data.List.Basic
import Mathlib.Data.List.Induction
import TagRules.Geo.Catalog
import TagRules.Proofs.Geo.Messages
import TagRules.Proofs.Net.Parts
import TagRules.Proofs.Rules.Arrangement
import TagRules.Proofs.Surroundings.Places

/-
  A catalog in memory and a catalog in files say the same of the same entries.

  The two get at the entries of the tags they are asked for in different ways.  A catalog
  in files reads all entries, makes networks and rules of their records, and takes those
  that are asked for, the last one of a code counting.  A catalog in memory has a map to
  which all entries were added in order (`addAll_eq_collect`), and looks up the tags one by
  one.  Both come down to one look-up (`getElem?_collect`, `getElem?_select`): a code that
  is asked for has the value of its last entry, and no other code has one.  Tags may be repeated,
  be spelled in any way or be in no entry; when there are none every code is asked for.

  That the records of a file are those networks and rules again (`network?_ofNetwork`,
  `rule?_ofRule`) needs networks that are written with their first addresses and values
  in small letters, because a file is read so.
-/

namespace TagRules

open Net Text Wire

namespace Geo

/-! ## Records of networks and rules -/

/-- The record of a network: the bytes of its address, highest first, and its length. -/
def NetworkRecord.ofNetwork (n : Network) : NetworkRecord :=
  ⟨(n.address.parts 8).map UInt8.ofNat, UInt32.ofNat n.length⟩

def NetworkEntry.ofPair (entry : String × List Network) : NetworkEntry :=
  ⟨entry.1, entry.2.map NetworkRecord.ofNetwork, false⟩

def kindNumber : MatchKind → Int32
  | .pattern => 1
  | .domain => 2
  | .full => 3

/-- The record of a rule, which has no attributes. -/
def DomainRecord.ofRule (r : SiteRule) : DomainRecord := ⟨kindNumber r.kind, r.value, []⟩

def DomainEntry.ofPair (entry : String × List SiteRule) : DomainEntry :=
  ⟨entry.1, entry.2.map DomainRecord.ofRule⟩

/-- The value is in small letters, unless it is a pattern. -/
def SiteRule.IsSmall (r : SiteRule) : Prop :=
  r.kind ≠ .pattern → String.ofList (lower r.value.toList) = r.value

theorem address?_parts (a : Address) : address? ((a.parts 8).map UInt8.ofNat) = some a := by
  have hbytes : ((a.parts 8).map UInt8.ofNat).map UInt8.toNat = a.parts 8 := by
    rw [List.map_map]
    conv => rhs; rw [← List.map_id (a.parts 8)]
    exact List.map_congr_left fun part hpart => toNat_ofNat_byte (Address.lt_of_mem_parts hpart)
  have hlength : ((a.parts 8).map UInt8.ofNat).length = a.family.bits / 8 := by
    rw [List.length_map, Address.length_parts]
  have hd : 8 ∣ a.family.bits := by cases a.family <;> decide
  have hwrap := Address.wrap_parts a hd
  unfold address?
  rw [hbytes, hlength]
  cases hf : a.family <;> rw [hf] at hwrap <;> simp [Family.bits, hwrap]

theorem network?_ofNetwork {n : Network} (h : n.truncate = n) :
    (NetworkRecord.ofNetwork n).network? = some n := by
  have hle := n.length_le
  have hbits : n.address.family.bits ≤ 128 := by cases n.address.family <;> decide
  have hlength : (UInt32.ofNat n.length).toNat = n.length := by
    rw [UInt32.toNat_ofNat']
    omega
  have hnetwork : Network.ofLength? n.address n.length = some n := by
    unfold Network.ofLength?
    rw [dif_pos hle]
  unfold NetworkRecord.network? NetworkRecord.ofNetwork
  rw [address?_parts, hlength]
  show (Network.ofLength? n.address n.length).map Network.truncate = some n
  rw [hnetwork, Option.map_some, h]

theorem domainKind?_kindNumber (kind : MatchKind) : domainKind? (kindNumber kind) = some kind := by
  cases kind <;> rfl

theorem rule?_ofRule {r : SiteRule} (h : r.IsSmall) : (DomainRecord.ofRule r).rule? = some r := by
  obtain ⟨kind, value⟩ := r
  unfold DomainRecord.rule? DomainRecord.ofRule
  rw [domainKind?_kindNumber, Option.map_some]
  cases kind with
  | pattern => rfl
  | domain | full =>
    have hvalue : String.ofList (lower value.toList) = value := h fun hk => nomatch hk
    simp only [hvalue]

theorem filterMap_map_of_inverse {α β : Type} {read : β → Option α} {write : α → β} {xs : List α}
    (h : ∀ x ∈ xs, read (write x) = some x) : (xs.map write).filterMap read = xs := by
  induction xs with
  | nil => rfl
  | cons x rest ih =>
    rw [List.map_cons, List.filterMap_cons_some (h x List.mem_cons_self),
      ih fun y hy => h y (List.mem_cons_of_mem x hy)]

theorem nets_ofPair {entry : String × List Network} (h : AllTruncated entry.2) :
    (NetworkEntry.ofPair entry).nets = entry.2 :=
  filterMap_map_of_inverse fun n hn => network?_ofNetwork (h n hn)

theorem rules_ofPair {entry : String × List SiteRule} (h : ∀ r ∈ entry.2, r.IsSmall) :
    (DomainEntry.ofPair entry).rules = entry.2 :=
  filterMap_map_of_inverse fun r hr => rule?_ofRule (h r hr)

/-! ## The codes that are asked for -/

section

variable {α β : Type}

/-- What the last entry with a code says of it. -/
def lastValue (code : α → String) (value : α → β) (entries : List α) (key : String) : Option β :=
  (entries.reverse.find? fun e => Tag.normalize (code e) == key).map value

/-- By induction on the entries from the last one: it has its own code's value, if that is asked
for, and leaves every other code as it was. -/
theorem getElem?_collect (code : α → String) (value : α → β) (tags : List String)
    (entries : List α) (key : String) :
    (collect code value tags entries)[key]? =
      if isWanted tags key then lastValue code value entries key else none := by
  induction entries using List.reverseRecOn with
  | nil => simp [collect, lastValue]
  | append_singleton entries e ih =>
    unfold collect lastValue at ih ⊢
    rw [List.foldl_append, List.reverse_append, List.reverse_singleton, List.singleton_append,
      List.find?_cons, List.foldl_cons, List.foldl_nil]
    dsimp only
    by_cases hkey : Tag.normalize (code e) = key
    · subst hkey
      split
      · simp
      · next hwanted => rw [ih, if_neg hwanted]
    · have hne : (Tag.normalize (code e) == key) = false := by simpa using hkey
      rw [hne]
      split
      · rw [Std.ExtTreeMap.getElem?_insert]
        simp [hkey, ih]
      · exact ih

/-- What was found, with what the map says of the code of one more tag. -/
def lookUp (entries found : Std.ExtTreeMap String α) (tag : String) : Std.ExtTreeMap String α :=
  match entries[Tag.normalize tag]? with
  | some value => found.insert (Tag.normalize tag) value
  | none => found

theorem getElem?_lookUp (entries found : Std.ExtTreeMap String α) (tag key : String) :
    (lookUp entries found tag)[key]? =
      if Tag.normalize tag = key then entries[key]?.or found[key]? else found[key]? := by
  unfold lookUp
  by_cases hkey : Tag.normalize tag = key
  · subst hkey
    cases entries[Tag.normalize tag]? <;> simp
  · rw [if_neg hkey]
    cases entries[Tag.normalize tag]? with
    | none => rfl
    | some value =>
      rw [Std.ExtTreeMap.getElem?_insert]
      simp [hkey]

theorem getElem?_foldl_lookUp (tags : List String) (entries : Std.ExtTreeMap String α)
    (key : String) :
    (tags.foldl (lookUp entries) ∅)[key]? =
      if (tags.map Tag.normalize).contains key then entries[key]? else none := by
  induction tags using List.reverseRecOn with
  | nil => simp
  | append_singleton tags tag ih =>
    rw [List.foldl_append, List.foldl_cons, List.foldl_nil, getElem?_lookUp, ih, List.map_append,
      List.contains_append]
    by_cases hkey : Tag.normalize tag = key
    · subst hkey
      cases entries[Tag.normalize tag]? <;> simp
    · have hne : ([tag].map Tag.normalize).contains key = false := by simpa using Ne.symm hkey
      rw [if_neg hkey, hne, Bool.or_false]

theorem getElem?_select (tags : List String) (entries : Std.ExtTreeMap String α) (key : String) :
    (Catalog.select tags entries)[key]? = if isWanted tags key then entries[key]? else none := by
  unfold Catalog.select isWanted
  split
  · next hempty => rw [hempty, Bool.true_or, if_pos rfl]
  · next hsome =>
    rw [Bool.eq_false_iff.mpr hsome, Bool.false_or]
    exact getElem?_foldl_lookUp tags entries key

/-- Taking the entries that are asked for is selecting from all entries. -/
theorem collect_eq_select (code : α → String) (value : α → β) (tags : List String)
    (entries : List α) :
    collect code value tags entries = Catalog.select tags (collect code value [] entries) := by
  apply Std.ExtTreeMap.ext_getElem?
  intro key
  rw [getElem?_select, getElem?_collect, getElem?_collect]
  rfl

/-- Adding entries one after another is taking all of them. -/
theorem addAll_eq_collect (entries : List (String × β)) :
    Catalog.addAll entries = collect Prod.fst Prod.snd [] entries := rfl

theorem collect_map {γ : Type} {code : α → String} {value : α → β} {code' : γ → String}
    {value' : γ → β} {entries : List γ} {f : γ → α} (tags : List String)
    (hcode : ∀ e ∈ entries, code (f e) = code' e) (hvalue : ∀ e ∈ entries, value (f e) = value' e) :
    collect code value tags (entries.map f) = collect code' value' tags entries := by
  unfold collect
  rw [List.foldl_map]
  exact List.foldl_ext _ _ _ fun found e he => by rw [hcode e he, hvalue e he]

end

/-! ## The two catalogs -/

theorem decodeNetworks_eq {networks : List (String × List Network)}
    (h : ∀ entry ∈ networks, AllTruncated entry.2) {bytes : Bytes}
    (hread : readNetworkFile bytes = some (networks.map NetworkEntry.ofPair)) (tags : List String) :
    decodeNetworks tags bytes =
      some (Catalog.select tags (Catalog.addAll networks)) := by
  unfold decodeNetworks
  rw [hread, Option.map_some, addAll_eq_collect, ← collect_eq_select]
  exact congrArg some (collect_map tags (fun _ _ => rfl) fun entry he => nets_ofPair (h entry he))

theorem decodeDomains_eq {domains : List (String × List SiteRule)}
    (h : ∀ entry ∈ domains, ∀ r ∈ entry.2, r.IsSmall) {bytes : Bytes}
    (hread : readDomainFile bytes = some (domains.map DomainEntry.ofPair)) (tags : List String) :
    decodeDomains tags bytes =
      some (Catalog.select tags (Catalog.addAll domains)) := by
  unfold decodeDomains
  rw [hread, Option.map_some, addAll_eq_collect, ← collect_eq_select]
  exact congrArg some (collect_map tags (fun _ _ => rfl) fun entry he => rules_ofPair (h entry he))

end Geo

namespace Catalog

open Geo

/-- The catalogs that are given here. -/
inductive IsGiven : Catalog → Prop where
  | nothing : IsGiven .nothing
  | memory (networks : Networks) (domains : Domains) : IsGiven (.memory networks domains)
  | files (ipPath sitePath : Option String) : IsGiven (.files ipPath sitePath)

theorem loadFile_eq_ok {α : Type} {kind : GeoKind} {path : Option String}
    {decode : Bytes → Option α} {files : FileTree} {value : α} :
    loadFile kind path decode files = .ok value ↔
      ∃ p bytes, path = some p ∧ files.read p = .ok bytes ∧ decode bytes = some value := by
  unfold loadFile
  cases path with
  | none => simp
  | some p =>
    dsimp only
    rw [mapError_eq_ok, decodeFile]
    cases hread : files.read p with
    | error fault => simp [hread]
    | ok bytes => cases hdecode : decode bytes <;> simp [hread, hdecode]

/-- A catalog with the files of some entries and a catalog in memory to which the same entries were
added in the same order have the same networks and the same rules for any tags, and always have
some. -/
theorem files_agree_memory {networks : List (String × List Network)}
    {domains : List (String × List SiteRule)}
    (hnetworks : ∀ entry ∈ networks, AllTruncated entry.2 ∧ Fits (NetworkEntry.ofPair entry).write)
    (hdomains : ∀ entry ∈ domains,
      (∀ r ∈ entry.2, r.IsSmall) ∧ Fits (DomainEntry.ofPair entry).write)
    {files : FileTree} {ipPath sitePath : String}
    (hip : files.read ipPath = .ok (writeNetworkFile (networks.map NetworkEntry.ofPair)))
    (hsite : files.read sitePath = .ok (writeDomainFile (domains.map DomainEntry.ofPair)))
    (tags : List String) :
    ∃ nets rules,
      (Catalog.files (some ipPath) (some sitePath)).networksFor files tags = .ok nets ∧
      (ofEntries networks domains).networksFor files tags = .ok nets ∧
      (Catalog.files (some ipPath) (some sitePath)).domainsFor files tags = .ok rules ∧
      (ofEntries networks domains).domainsFor files tags = .ok rules := by
  have hnets := decodeNetworks_eq (fun entry he => (hnetworks entry he).1)
    (readNetworkFile_write (List.forall_mem_map.mpr fun entry he => (hnetworks entry he).2)) tags
  have hrules := decodeDomains_eq (fun entry he => (hdomains entry he).1)
    (readDomainFile_write (List.forall_mem_map.mpr fun entry he => (hdomains entry he).2)) tags
  exact ⟨_, _, loadFile_eq_ok.mpr ⟨_, _, rfl, hip, hnets⟩, rfl,
    loadFile_eq_ok.mpr ⟨_, _, rfl, hsite, hrules⟩, rfl⟩

/-- Of two spellings of one code the later entry counts, in files as in memory. -/
theorem files_agree_memory_spelled :
    let networks : List (String × List Network) :=
      [("cn", [⟨⟨.v4, 0x01000100, by decide⟩, 24, by decide⟩]),
        (" CN", [⟨⟨.v4, 0x0A000000, by decide⟩, 8, by decide⟩,
          ⟨⟨.v6, 0xFC * 2 ^ 120, by decide⟩, 7, by decide⟩])]
    let domains : List (String × List SiteRule) :=
      [("ads", [⟨.domain, "ads.example"⟩, ⟨.pattern, "^AD"⟩, ⟨.full, "a.b"⟩])]
    let files :=
      ((FileTree.empty 0).put ["ip.dat"]
        (.file ⟨writeNetworkFile (networks.map NetworkEntry.ofPair), 0, true⟩)).put ["site.dat"]
        (.file ⟨writeDomainFile (domains.map DomainEntry.ofPair), 0, true⟩)
    (∀ entry ∈ networks, AllTruncated entry.2 ∧ Fits (NetworkEntry.ofPair entry).write) ∧
      (∀ entry ∈ domains,
        (∀ r ∈ entry.2, r.IsSmall) ∧ Fits (DomainEntry.ofPair entry).write) ∧
      ∃ nets rules,
        (Catalog.files (some "ip.dat") (some "site.dat")).networksFor files ["Cn", "cn", "jp"] =
          .ok nets ∧
        (ofEntries networks domains).networksFor files ["Cn", "cn", "jp"] = .ok nets ∧
        nets["CN"]? = networks[1]?.map Prod.snd ∧
        (Catalog.files (some "ip.dat") (some "site.dat")).domainsFor files ["Cn", "cn", "jp"] =
          .ok rules ∧
        (ofEntries networks domains).domainsFor files ["Cn", "cn", "jp"] = .ok rules ∧
        rules["ADS"]? = none := by
  intro networks domains files
  have hnetworks : ∀ entry ∈ networks,
      AllTruncated entry.2 ∧ Fits (NetworkEntry.ofPair entry).write := by
    unfold AllTruncated Fits
    decide +kernel
  have hdomains : ∀ entry ∈ domains,
      (∀ r ∈ entry.2, r.IsSmall) ∧ Fits (DomainEntry.ofPair entry).write := by
    unfold SiteRule.IsSmall Fits
    decide +kernel
  have hip : files.read "ip.dat" = .ok (writeNetworkFile (networks.map NetworkEntry.ofPair)) := by
    rfl
  have hsite : files.read "site.dat" = .ok (writeDomainFile (domains.map DomainEntry.ofPair)) := by
    rfl
  obtain ⟨nets, rules, hnets, hnets', hrules, hrules'⟩ :=
    files_agree_memory hnetworks hdomains hip hsite ["Cn", "cn", "jp"]
  refine ⟨hnetworks, hdomains, nets, rules, hnets, hnets', ?_, hrules, hrules', ?_⟩
  · rw [← Except.ok.inj hnets']
    decide +kernel
  · rw [← Except.ok.inj hrules']
    decide +kernel

end Catalog

end TagRules
