import TagRules.Proofs.Engine.NetworkAnswers
import TagRules.Proofs.Geo.Catalogs
import TagRules.Proofs.Rules.DomainMatches

/-
  How far the geographic sets reflect the catalog as it is.

  A rebuild asks the catalog for all codes that sets are kept for.  Sets are replaced code by
  code: a set that the catalog says something of matches what one of these entries matches,
  whatever it was before, and a set that the catalog says nothing of stays as it was
  (`rebuilt_answers`).  That holds for any catalog.  What a catalog that is given here says of
  a code is also what it says if asked for that code alone (`networksFor_one`,
  `domainsFor_one`).  So an entry that was taken out of a file is gone after the next
  rebuild, but not the last entries of a code that has none any more
  (`not_answers_of_catalog`).
-/

namespace TagRules

open Net Text Wire

/-! ## What the catalog says of one code -/

namespace Catalog

variable {α β : Type}

variable {tags : List String} {tag : String}

theorem isWanted_one (tag : String) : Geo.isWanted [tag] (Tag.normalize tag) = true := by
  simp [Geo.isWanted]

theorem getElem?_select_one (h : Geo.isWanted tags (Tag.normalize tag) = true)
    (entries : Std.ExtTreeMap String α) :
    (select [tag] entries)[Tag.normalize tag]? = (select tags entries)[Tag.normalize tag]? := by
  rw [Geo.getElem?_select, Geo.getElem?_select, isWanted_one, h]

theorem loadFile_one {kind : GeoKind} {files : FileTree} {path : Option String}
    {read : Bytes → Option (List α)} {code : α → String} {value : α → β}
    {found : Std.ExtTreeMap String β}
    (h : loadFile kind path (fun bytes => (read bytes).map (Geo.collect code value tags)) files =
      .ok found)
    (hwanted : Geo.isWanted tags (Tag.normalize tag) = true) :
    ∃ one, loadFile kind path (fun bytes => (read bytes).map (Geo.collect code value [tag])) files =
        .ok one ∧
      one[Tag.normalize tag]? = found[Tag.normalize tag]? := by
  obtain ⟨p, bytes, hpath, hread, hdecode⟩ := loadFile_eq_ok.mp h
  obtain ⟨entries, hentries, rfl⟩ := Option.map_eq_some_iff.mp hdecode
  refine ⟨Geo.collect code value [tag] entries,
    loadFile_eq_ok.mpr ⟨p, bytes, hpath, hread, ?_⟩, ?_⟩
  · rw [hentries, Option.map_some]
  · rw [Geo.getElem?_collect, Geo.getElem?_collect, isWanted_one, hwanted]

/-- A catalog that is given here and says something of some codes says the same of one of them
alone. -/
theorem networksFor_one {catalog : Catalog} (hgiven : catalog.IsGiven) {files : FileTree}
    {networks : Geo.Networks} (h : catalog.networksFor files tags = .ok networks)
    (hwanted : Geo.isWanted tags (Tag.normalize tag) = true) :
    ∃ found, catalog.networksFor files [tag] = .ok found ∧
      found[Tag.normalize tag]? = networks[Tag.normalize tag]? := by
  cases hgiven with
  | nothing => cases h
  | memory entries rules =>
    obtain rfl := Except.ok.inj h
    exact ⟨_, rfl, getElem?_select_one hwanted entries⟩
  | files ipPath sitePath => exact loadFile_one h hwanted

theorem domainsFor_one {catalog : Catalog} (hgiven : catalog.IsGiven) {files : FileTree}
    {domains : Geo.Domains} (h : catalog.domainsFor files tags = .ok domains)
    (hwanted : Geo.isWanted tags (Tag.normalize tag) = true) :
    ∃ found, catalog.domainsFor files [tag] = .ok found ∧
      found[Tag.normalize tag]? = domains[Tag.normalize tag]? := by
  cases hgiven with
  | nothing => cases h
  | memory networks entries =>
    obtain rfl := Except.ok.inj h
    exact ⟨_, rfl, getElem?_select_one hwanted entries⟩
  | files ipPath sitePath => exact loadFile_one h hwanted

/-- What a file has of its networks is what a catalog in memory has of them. -/
theorem networksFor_file {networks : List (String × List Network)}
    (h : ∀ entry ∈ networks,
      AllTruncated entry.2 ∧ Fits (Geo.NetworkEntry.ofPair entry).write)
    {files : FileTree} {path : String}
    (hread : files.read path =
      .ok (Geo.writeNetworkFile (networks.map Geo.NetworkEntry.ofPair)))
    (sitePath : Option String) (tags : List String) :
    (Catalog.files (some path) sitePath).networksFor files tags =
      (ofEntries networks []).networksFor files tags :=
  loadFile_eq_ok.mpr ⟨path, _, rfl, hread, Geo.decodeNetworks_eq (fun entry he => (h entry he).1)
    (Geo.readNetworkFile_write (List.forall_mem_map.mpr fun entry he => (h entry he).2)) tags⟩

end Catalog

/-! ## What a rule of the catalog matches -/

/-- Whether a rule by itself matches a name in the way of a kind, which it does not if it cannot
be added. -/
def Geo.SiteRule.Answers (rule : Geo.SiteRule) (kind : MatchKind) (name : String) : Prop :=
  ∃ entry, DomainRules.Entry.ofKind? rule.kind rule.value = some entry ∧ entry.Answers kind name

namespace Engine

theorem domainRulesOf_eq (given : List Geo.SiteRule) :
    domainRulesOf given =
      (given.filterMap fun rule => DomainRules.Entry.ofKind? rule.kind rule.value).foldl
        DomainRules.insert DomainRules.empty := by
  unfold domainRulesOf
  rw [List.foldl_filterMap]
  refine List.foldl_ext _ _ _ fun rules rule _ => ?_
  unfold DomainRules.add?
  cases DomainRules.Entry.ofKind? rule.kind rule.value <;> rfl

theorem matchesKind_domainRulesOf {given : List Geo.SiteRule} {kind : MatchKind} {name : String} :
    (domainRulesOf given).matchesKind kind name = true ↔
      ∃ rule ∈ given, rule.Answers kind name := by
  rw [domainRulesOf_eq, DomainRules.matchesKind_foldl]
  constructor
  · rintro ⟨entry, hmem, hanswers⟩
    obtain ⟨rule, hrule, hentry⟩ := List.mem_filterMap.mp hmem
    exact ⟨rule, hrule, entry, hentry, hanswers⟩
  · rintro ⟨rule, hrule, entry, hentry, hanswers⟩
    exact ⟨entry, List.mem_filterMap.mpr ⟨rule, hrule, hentry⟩, hanswers⟩

/-! ## Sets after a rebuild -/

variable {e : Engine} {files : FileTree}

theorem exists_networksFor_of_ok {count : Nat} (h : (e.rebuildNetworks files).1 = .ok count) :
    ∃ networks, e.catalog.networksFor files e.geoIpTags = .ok networks ∧
      ∀ code, (e.rebuildNetworks files).2.geoIp.get? code =
        (networks[code]?.map NetworkRules.ofList).or (e.geoIp.get? code) := by
  cases hload : e.catalog.networksFor files e.geoIpTags with
  | error fault =>
    unfold rebuildNetworks at h
    rw [hload] at h
    cases h
  | ok networks =>
    refine ⟨networks, rfl, fun code => ?_⟩
    rw [rebuildNetworks_get?, hload]
    rfl

theorem exists_domainsFor_of_ok {count : Nat} (h : (e.rebuildSites files).1 = .ok count) :
    ∃ domains, e.catalog.domainsFor files e.geoSiteTags = .ok domains ∧
      ∀ code, (e.rebuildSites files).2.geoSite.get? code =
        (domains[code]?.map domainRulesOf).or (e.geoSite.get? code) := by
  unfold rebuildSites at h ⊢
  cases hload : e.catalog.domainsFor files e.geoSiteTags with
  | error fault =>
    rw [hload] at h
    cases h
  | ok domains =>
    refine ⟨domains, rfl, fun code => ?_⟩
    dsimp only
    rw [CodedSets.get?_replace, Std.ExtTreeMap.getElem?_map]

/-- The networks of a code after a rebuild are those the catalog returned for it, or, where it
returned none for the code, those that were there. -/
theorem rebuildNetworks_answers {count : Nat} (h : (e.rebuildNetworks files).1 = .ok count)
    (tag : String) :
    ∃ found, e.catalog.networksFor files e.geoIpTags = .ok found ∧ ∀ n,
      (((e.rebuildNetworks files).2.matchGeoNetwork tag n).1 = true ↔
        match found[Tag.normalize tag]? with
        | some nets => ∃ m ∈ nets, m.covers n = true
        | none => (e.matchGeoNetwork tag n).1 = true) := by
  obtain ⟨networks, hload, hget⟩ := exists_networksFor_of_ok h
  refine ⟨networks, hload, fun n => ?_⟩
  show (rebuildNetworks e files).2.geoCovers (Tag.normalize tag) n = true ↔ _
  unfold geoCovers
  rw [hget]
  cases networks[Tag.normalize tag]? with
  | some nets =>
    rw [Option.map_some, Option.some_or, Option.any_some, NetworkRules.covers_ofList,
      List.any_eq_true]
  | none => rfl

theorem rebuildSites_answers {count : Nat} (h : (e.rebuildSites files).1 = .ok count)
    (tag : String) :
    ∃ found, e.catalog.domainsFor files e.geoSiteTags = .ok found ∧ ∀ kind name,
      (((e.rebuildSites files).2.matchSite kind tag name).1 = true ↔
        match found[Tag.normalize tag]? with
        | some rules => ∃ rule ∈ rules, rule.Answers kind name
        | none => (e.matchSite kind tag name).1 = true) := by
  obtain ⟨domains, hload, hget⟩ := exists_domainsFor_of_ok h
  refine ⟨domains, hload, fun kind name => ?_⟩
  show (((e.rebuildSites files).2.geoSite.get? (Tag.normalize tag)).any fun set =>
    set.matchesKind kind name) = true ↔ _
  rw [hget]
  cases domains[Tag.normalize tag]? with
  | some rules =>
    rw [Option.map_some, Option.some_or, Option.any_some, matchesKind_domainRulesOf]
  | none => rfl

/-- After a rebuild that succeeds, whatever came before it and whatever the catalog is, a question
about a code is answered from what the catalog returned for the code now.  Only where it returned
nothing for the code, the answer is that of before.  A catalog that is given here has the same for
the code if it is asked for that alone. -/
theorem rebuilt_answers (e : Engine) (files : FileTree) (tag : String) :
    let code := Tag.normalize tag
    (∀ count, (e.rebuildNetworks files).1 = .ok count →
      ∃ found, e.catalog.networksFor files e.geoIpTags = .ok found ∧
        (∀ n, ((e.rebuildNetworks files).2.matchGeoNetwork tag n).1 = true ↔
          match found[code]? with
          | some nets => ∃ m ∈ nets, m.covers n = true
          | none => (e.matchGeoNetwork tag n).1 = true) ∧
        (e.catalog.IsGiven → Geo.isWanted e.geoIpTags code = true →
          ∃ one, e.catalog.networksFor files [tag] = .ok one ∧ one[code]? = found[code]?)) ∧
    (∀ count, (e.rebuildSites files).1 = .ok count →
      ∃ found, e.catalog.domainsFor files e.geoSiteTags = .ok found ∧
        (∀ kind name, ((e.rebuildSites files).2.matchSite kind tag name).1 = true ↔
          match found[code]? with
          | some rules => ∃ rule ∈ rules, rule.Answers kind name
          | none => (e.matchSite kind tag name).1 = true) ∧
        (e.catalog.IsGiven → Geo.isWanted e.geoSiteTags code = true →
          ∃ one, e.catalog.domainsFor files [tag] = .ok one ∧ one[code]? = found[code]?)) := by
  intro code
  constructor
  · intro count h
    obtain ⟨found, hload, hanswers⟩ := rebuildNetworks_answers h tag
    exact ⟨found, hload, hanswers, fun hgiven => Catalog.networksFor_one hgiven hload⟩
  · intro count h
    obtain ⟨found, hload, hanswers⟩ := rebuildSites_answers h tag
    exact ⟨found, hload, hanswers, fun hgiven => Catalog.domainsFor_one hgiven hload⟩

/-- Of two codes with a set the catalog still has one, and has it with another network. -/
theorem rebuilt_answers_kept :
    let here : Network := ⟨⟨.v4, 0x01000100, by decide⟩, 24, by decide⟩
    let there : Network := ⟨⟨.v4, 0x08080800, by decide⟩, 24, by decide⟩
    let sets : Std.ExtTreeMap String NetworkRules :=
      ((∅ : Std.ExtTreeMap String NetworkRules).insert "CN" (.ofList [here])).insert "US"
        (.ofList [here])
    let e : Engine := { Engine.empty with
      geoIp := ⟨sets⟩
      geoIpTags := ["CN", "US"]
      geoSiteTags := ["US"]
      catalog := .ofEntries [("us", [there])] [("us", [⟨.full, "a.us"⟩])] }
    (∃ count, (e.rebuildNetworks (.empty 0)).1 = .ok count) ∧
      (∃ count, (e.rebuildSites (.empty 0)).1 = .ok count) ∧
      ((e.rebuildNetworks (.empty 0)).2.matchGeoNetwork "cn" here).1 = true ∧
      ((e.rebuildNetworks (.empty 0)).2.matchGeoNetwork "us" here).1 = false ∧
      ((e.rebuildNetworks (.empty 0)).2.matchGeoNetwork "us" there).1 = true ∧
      ((e.rebuildSites (.empty 0)).2.matchSite .domain "us" "www.a.us").1 = true := by
  intro here there sets e
  have hnetworks : ∃ count, (e.rebuildNetworks (.empty 0)).1 = .ok count := ⟨_, rfl⟩
  have hsites : ∃ count, (e.rebuildSites (.empty 0)).1 = .ok count := ⟨_, rfl⟩
  refine ⟨hnetworks, hsites, ?_⟩
  obtain ⟨_, hloaded⟩ := hnetworks
  obtain ⟨_, hbuilt⟩ := hsites
  obtain ⟨cn, hcn, hcnAnswers, -⟩ := (rebuilt_answers e (.empty 0) "cn").1 _ hloaded
  obtain ⟨us, hus, husAnswers, -⟩ := (rebuilt_answers e (.empty 0) "us").1 _ hloaded
  obtain ⟨site, hsite, hsiteAnswers, -⟩ := (rebuilt_answers e (.empty 0) "us").2 _ hbuilt
  have hcn : cn[Tag.normalize "cn"]? = none := by
    rw [← Except.ok.inj hcn]
    decide +kernel
  have hus : us[Tag.normalize "us"]? = some [there] := by
    rw [← Except.ok.inj hus]
    decide +kernel
  have hsite : site[Tag.normalize "us"]? = some [⟨.full, "a.us"⟩] := by
    rw [← Except.ok.inj hsite]
    decide +kernel
  simp only [hcn] at hcnAnswers
  simp only [hus] at husAnswers
  simp only [hsite] at hsiteAnswers
  refine ⟨(hcnAnswers here).mpr ?_, ?_, (husAnswers there).mpr ?_,
    (hsiteAnswers .domain "www.a.us").mpr ?_⟩
  · have hset : e.geoIp.get? (Tag.normalize "cn") = some (.ofList [here]) := by
      rw [show Tag.normalize "cn" = "CN" by decide +kernel]
      show sets["CN"]? = _
      rw [Std.ExtTreeMap.getElem?_insert, if_neg (by decide +kernel),
        Std.ExtTreeMap.getElem?_insert_self]
    show ((e.geoIp.get? (Tag.normalize "cn")).any fun set => set.covers here) = true
    rw [hset, Option.any_some, NetworkRules.covers_ofList]
    decide +kernel
  · rw [← Bool.not_eq_true, husAnswers here]
    decide +kernel
  · exact ⟨there, List.mem_singleton_self _, by decide +kernel⟩
  · exact ⟨_, List.mem_singleton_self _, _, rfl, by decide, .inr ⟨"www".toList, rfl⟩⟩

/-- It is not so that answers after a rebuild that succeeds come from the catalog alone.  A file
had a network for a code, and now has no entry for the code. -/
theorem not_answers_of_catalog :
    ¬∀ (s : Surroundings) (ops : List Operation) (tag : String) (n : Network) (count : Nat),
      let c := (Course.start s).take ops
      let files := c.surroundings.files
      let code := Tag.normalize tag
      (c.engine.rebuildNetworks files).1 = .ok count →
        Geo.isWanted c.engine.geoIpTags code = true →
        ∃ found, c.engine.catalog.networksFor files [tag] = .ok found ∧
          (((c.engine.rebuildNetworks files).2.matchGeoNetwork tag n).1 = true ↔
            ∃ nets, found[code]? = some nets ∧ ∃ m ∈ nets, m.covers n = true) := by
  intro h
  let here : Network := ⟨⟨.v4, 0x01000100, by decide⟩, 24, by decide⟩
  let withFile (networks : List (String × List Network)) : Surroundings :=
    ⟨(FileTree.empty 0).put ["geoip.dat"]
      (.file ⟨Geo.writeNetworkFile (networks.map Geo.NetworkEntry.ofPair), 0, true⟩), .empty true⟩
  let first := withFile [("CN", [here])]
  let second := withFile [("US", [here])]
  let catalog : Catalog := .files (some "geoip.dat") none
  let ops : List Operation := [.set (.catalog catalog), .set (.geoCodes ["CN"] []),
    .rebuildNetworks, .outside second]
  -- The engine before and after the first rebuild.
  let begun : Engine := (Engine.empty.set (.catalog catalog)).set (.geoCodes ["CN"] [])
  let e := (begun.rebuildNetworks first.files).2
  have hcn : Tag.normalize "CN" = "CN" := by decide +kernel
  have htags : begun.geoIpTags = ["CN"] := by decide +kernel
  have hfirst : begun.catalog.networksFor first.files begun.geoIpTags =
      (Catalog.ofEntries [("CN", [here])] []).networksFor first.files ["CN"] := by
    rw [htags]
    exact Catalog.networksFor_file (by unfold AllTruncated Fits; decide +kernel) rfl none _
  have hsecond : catalog.networksFor second.files ["CN"] =
      (Catalog.ofEntries [("US", [here])] []).networksFor second.files ["CN"] :=
    Catalog.networksFor_file (by unfold AllTruncated Fits; decide +kernel) rfl none _
  have hset : e.geoIp.get? "CN" = some (.ofList [here]) := by
    show (begun.rebuildNetworks first.files).2.geoIp.get? "CN" = _
    rw [rebuildNetworks_get?, hfirst]
    have hlist : (Catalog.select ["CN"] (Catalog.addAll [("CN", [here])]))["CN"]? =
        some [here] := by decide +kernel
    show (Option.map NetworkRules.ofList (Catalog.select _ _)["CN"]?).or _ = _
    rw [hlist]
    rfl
  -- Only the sets have changed, so the second rebuild asks the same catalog for the same codes.
  have hframe : e = { begun with geoIp := e.geoIp } := rebuildNetworks_frame begun first.files
  have hcatalog : e.catalog = catalog := congrArg Engine.catalog hframe
  have hkept : e.geoIpTags = ["CN"] := (congrArg Engine.geoIpTags hframe).trans htags
  have hloaded : ∃ count, (e.rebuildNetworks second.files).1 = .ok count := by
    unfold rebuildNetworks
    rw [hcatalog, hkept, hsecond]
    exact ⟨_, rfl⟩
  have hwanted : Geo.isWanted e.geoIpTags (Tag.normalize "CN") = true := by
    rw [hkept]
    decide +kernel
  have hnone : (Catalog.select ["CN"] (Catalog.addAll [("US", [here])]))["CN"]? =
      none := by decide +kernel
  have hyes : ((e.rebuildNetworks second.files).2.matchGeoNetwork "CN" here).1 = true := by
    show (e.rebuildNetworks second.files).2.geoCovers (Tag.normalize "CN") here = true
    unfold geoCovers
    rw [hcn, rebuildNetworks_get?, hcatalog, hkept, hsecond, hset]
    show ((Option.map NetworkRules.ofList (Catalog.select _ _)["CN"]?).or _).any _ = true
    rw [hnone]
    show (NetworkRules.ofList [here]).covers here = true
    rw [NetworkRules.covers_ofList]
    decide +kernel
  obtain ⟨count, hcount⟩ := hloaded
  obtain ⟨found, hfound, hiff⟩ := h first ops "CN" here count hcount hwanted
  obtain ⟨nets, hnets, -⟩ := hiff.mp hyes
  have heq : found = Catalog.select ["CN"] (Catalog.addAll [("US", [here])]) := by
    change e.catalog.networksFor second.files ["CN"] = .ok found at hfound
    rw [hcatalog, hsecond] at hfound
    exact (Except.ok.inj hfound).symm
  rw [heq, hcn, hnone] at hnets
  cases hnets

end Engine

end TagRules
