import TagRules.Proofs.Engine.CurrentCatalog
import TagRules.Proofs.Text.Case

/-
  Whether a domain rule matches the name it was given.

  The name that a value gives is the value in small letters, without blanks at its ends
  (`ownName`).  A query for it asks for that name without a full stop at the end, which is the
  form in which a line has its value kept (`queried_ownName`).  So every rule of a line matches
  its own name, in full and by suffix.

  A value of a catalog file is kept in small letters, and otherwise as it is.  With a blank at an
  end or the full stop of the root it is longer than anything its own name is asked for as
  (`lower_eq_domainName_iff`), and the rule does not match that name in any way.  The name then
  matches only if another rule of the same entry says so (`matches_ownName_iff`).
-/

namespace TagRules

open Text Wire

/-- The name that a value gives: in small letters, without blanks at its ends. -/
def ownName (value : List Char) : String := String.ofList (lower (trim value))

theorem ownName_ne_empty {value : List Char} (h : trim value ≠ []) : ownName value ≠ "" := by
  intro hempty
  have hnil := congrArg String.toList hempty
  unfold ownName at hnil
  rw [String.toList_ofList] at hnil
  exact lowerAfter_ne_nil [] h hnil

/-- A value in small letters is the name of a rule if it has neither blanks at its ends nor the
full stop of the root. -/
theorem lower_eq_domainName_iff (value : List Char) :
    lower value = Line.domainName value ↔ trim value = value ∧ value.getLast? ≠ some '.' := by
  unfold Line.domainName
  constructor
  · intro heq
    have htrim : trim value = value := by
      refine trim_eq_self_of_length_le ?_
      rw [heq]
      exact length_dropFinalStop_le _
    rw [htrim, eq_comm, dropFinalStop_eq_self_iff, ne_eq, getLast?_lower] at heq
    exact ⟨htrim, heq⟩
  · rintro ⟨htrim, hstop⟩
    rw [htrim, eq_comm, dropFinalStop_eq_self_iff, ne_eq, getLast?_lower]
    exact hstop

namespace DomainRules

theorem queried_ownName (value : List Char) : queried (ownName value) = Line.domainName value := by
  unfold queried ownName
  rw [String.toList_ofList]
  rfl

namespace Entry

variable {kind : MatchKind} {value : List Char}

theorem answers_ownName (hkind : kind ≠ .pattern) (hvalue : trim value ≠ []) :
    (name (String.ofList (Line.domainName value))).Answers kind (ownName value) := by
  have hsame : queried (ownName value) = (String.ofList (Line.domainName value)).toList := by
    rw [queried_ownName, String.toList_ofList]
  cases kind with
  | full => exact hsame
  | domain => exact ⟨ownName_ne_empty hvalue, .inl hsame⟩
  | pattern => exact absurd rfl hkind

/-- A value in small letters answers for the name it gives only if it has the form of a rule.  It
is at least as long as what is asked for, and so does not come after a label either. -/
theorem lower_answers_ownName_iff (hkind : kind ≠ .pattern) (hvalue : trim value ≠ []) :
    (name (String.ofList (lower value))).Answers kind (ownName value) ↔
      trim value = value ∧ value.getLast? ≠ some '.' := by
  have hall : queried (ownName value) = (String.ofList (lower value)).toList ↔
      trim value = value ∧ value.getLast? ≠ some '.' := by
    rw [queried_ownName, String.toList_ofList, eq_comm, lower_eq_domainName_iff]
  have hlabel : ¬∃ before,
      queried (ownName value) = before ++ '.' :: (String.ofList (lower value)).toList := by
    rintro ⟨before, hbefore⟩
    rw [queried_ownName, String.toList_ofList] at hbefore
    have hshort : (Line.domainName value).length ≤ (lower value).length :=
      Nat.le_trans (length_dropFinalStop_le _) (length_lower_trim_le value)
    rw [hbefore, List.length_append, List.length_cons] at hshort
    omega
  cases kind with
  | full => exact hall
  | domain =>
    show _ ∧ (_ ∨ _) ↔ _
    rw [or_iff_left hlabel, and_iff_right (ownName_ne_empty hvalue)]
    exact hall
  | pattern => exact absurd rfl hkind

end Entry

end DomainRules

/-! ## Rules of lines -/

namespace Line

/-- The kind and the value of the domain rule on a line, whatever its tag. -/
def domainRule? (line : List Char) : Option (MatchKind × List Char) :=
  if !line.contains ':' then some (.full, line)
  else match fields? line with
    | none => none
    | some (_, kind, value) => (MatchKind.ofChars? kind).map fun kind => (kind, value)

theorem readDomainValue_eq_entry {kind : MatchKind} {value : List Char}
    {entry : DomainRules.Entry} (h : readDomainValue kind value = .entry entry)
    (hkind : kind ≠ .pattern) : entry = .name (String.ofList (domainName value)) := by
  cases kind with
  | pattern => exact absurd rfl hkind
  | full | domain =>
    unfold readDomainValue at h
    dsimp only [DomainRules.Entry.ofKind?] at h
    split at h
    · cases h
    · exact (Line.entry.inj h).symm

/-- An entry of a line is the rule on it, and a name is kept in the form of a rule. -/
theorem readDomain_eq_entry {tag : String} {line : List Char} {entry : DomainRules.Entry}
    (h : readDomain tag line = .entry entry) :
    ∃ kind value, domainRule? line = some (kind, value) ∧
      (kind ≠ .pattern → entry = .name (String.ofList (domainName value))) := by
  unfold readDomain at h
  unfold domainRule?
  split at h
  · next hplain =>
    rw [if_pos hplain]
    exact ⟨.full, line, rfl, fun _ => (Line.entry.inj h).symm⟩
  · next hcolon =>
    -- A line with a colon has three fields, the second of which is the name of a kind.
    rw [if_neg hcolon]
    cases hfields : fields? line with
    | none =>
      rw [hfields] at h
      cases h
    | some fields =>
      obtain ⟨owner, kind, value⟩ := fields
      rw [hfields] at h
      dsimp only at h ⊢
      cases hkind : MatchKind.ofChars? kind with
      | none =>
        rw [hkind] at h
        cases h
      | some kind =>
        rw [hkind] at h
        dsimp only at h
        split at h
        · exact ⟨kind, value, rfl, readDomainValue_eq_entry h⟩
        · cases h

theorem strip_ne_nil_of_domainRule? {line value : List Char} {kind : MatchKind}
    (h : domainRule? line = some (kind, value)) (hvalue : trim value ≠ []) : line ≠ [] := by
  rintro rfl
  obtain ⟨-, rfl⟩ := Prod.mk.inj (Option.some.inj h)
  exact hvalue rfl

end Line

theorem RuleSet.matches_ownName {tag : String} {lines : List (List Char)} {line : List Char}
    (hline : line ∈ lines) {entry : DomainRules.Entry}
    (hread : Line.readDomain tag (Line.strip line) = .entry entry) :
    ∃ kind value, Line.domainRule? (Line.strip line) = some (kind, value) ∧
      (kind ≠ .pattern → trim value ≠ [] →
        ∃ rules, (RuleSet.ofLines .domain tag lines).1 = .domain rules ∧
          ∀ asked : MatchKind, asked ≠ .pattern →
            rules.matchesKind asked (ownName value) = true) := by
  obtain ⟨kind, value, hrule, hentry⟩ := Line.readDomain_eq_entry hread
  refine ⟨kind, value, hrule, fun hkind hvalue => ⟨_, rfl, fun asked hasked => ?_⟩⟩
  have hsays := Line.strip_ne_nil_of_domainRule? hrule hvalue
  refine DomainRules.matchesKind_foldl.mpr
    ⟨entry, Line.mem_entries_readAll.mpr ⟨line, hline, hsays, hread⟩, ?_⟩
  rw [hentry hkind]
  exact DomainRules.Entry.answers_ownName hasked hvalue

/-! ## Rules of a catalog -/

namespace Geo

theorem DomainRecord.rule?_eq_some {record : DomainRecord} {kind : MatchKind}
    (h : domainKind? record.kind = some kind) (hkind : kind ≠ .pattern) :
    record.rule? = some ⟨kind, String.ofList (lower record.value.toList)⟩ := by
  unfold DomainRecord.rule?
  rw [h, Option.map_some]
  cases kind with
  | full | domain => rfl
  | pattern => exact absurd rfl hkind

theorem SiteRule.answers_ownName_iff {kind asked : MatchKind} (hkind : kind ≠ .pattern)
    (hasked : asked ≠ .pattern) {value : List Char} (hvalue : trim value ≠ []) :
    SiteRule.Answers ⟨kind, String.ofList (lower value)⟩ asked (ownName value) ↔
      trim value = value ∧ value.getLast? ≠ some '.' := by
  have hentry : DomainRules.Entry.ofKind? kind (String.ofList (lower value)) =
      some (.name (String.ofList (lower value))) := by
    cases kind with
    | full | domain => rfl
    | pattern => exact absurd rfl hkind
  rw [← DomainRules.Entry.lower_answers_ownName_iff hasked hvalue]
  constructor
  · rintro ⟨entry, heq, hanswers⟩
    rwa [← Option.some.inj (hentry.symm.trans heq)] at hanswers
  · exact fun hanswers => ⟨_, hentry, hanswers⟩

end Geo

namespace Engine

variable {e : Engine} {files : FileTree} {entry : Geo.DomainEntry}

/-- The catalog is kept in a file whose last entry for a code that is asked for is this one. -/
def HasSiteEntry (e : Engine) (files : FileTree) (entry : Geo.DomainEntry) : Prop :=
  Geo.isWanted e.geoSiteTags (Tag.normalize entry.code) = true ∧
    ∃ ipPath path bytes entries, e.catalog = .files ipPath (some path) ∧
      files.read path = .ok bytes ∧ Geo.readDomainFile bytes = some entries ∧
      entries.reverse.find? (fun other => Tag.normalize other.code == Tag.normalize entry.code) =
        some entry

theorem HasSiteEntry.of_write (entries : List Geo.DomainEntry) {path : String}
    (hfits : ∀ other ∈ entries, Fits other.write)
    (hread : files.read path = .ok (Geo.writeDomainFile entries))
    {ipPath : Option String} (hcatalog : e.catalog = .files ipPath (some path))
    (hwanted : Geo.isWanted e.geoSiteTags (Tag.normalize entry.code) = true)
    (hlast : entries.reverse.find? (fun other =>
      Tag.normalize other.code == Tag.normalize entry.code) = some entry) :
    e.HasSiteEntry files entry :=
  ⟨hwanted, ipPath, path, _, entries, hcatalog, hread, Geo.readDomainFile_write hfits, hlast⟩

theorem HasSiteEntry.rebuildSites (h : e.HasSiteEntry files entry) :
    ∃ count, (e.rebuildSites files).1 = .ok count ∧
      (e.rebuildSites files).2.geoSite.get? (Tag.normalize entry.code) =
        some (domainRulesOf entry.rules) := by
  obtain ⟨hwanted, ipPath, path, bytes, entries, hcatalog, hread, hentries, hlast⟩ := h
  have hdomains : e.catalog.domainsFor files e.geoSiteTags =
      .ok (Geo.collect Geo.DomainEntry.code Geo.DomainEntry.rules e.geoSiteTags entries) := by
    rw [hcatalog]
    refine Catalog.loadFile_eq_ok.mpr ⟨path, bytes, rfl, hread, ?_⟩
    unfold Geo.decodeDomains
    rw [hentries, Option.map_some]
  have hok : ∃ count, (e.rebuildSites files).1 = .ok count := by
    unfold Engine.rebuildSites
    rw [hdomains]
    exact ⟨_, rfl⟩
  obtain ⟨count, hcount⟩ := hok
  obtain ⟨domains, hload, hget⟩ := exists_domainsFor_of_ok hcount
  obtain rfl := Except.ok.inj (hdomains.symm.trans hload)
  refine ⟨count, hcount, ?_⟩
  rw [hget, Geo.getElem?_collect, if_pos hwanted]
  unfold Geo.lastValue
  rw [hlast]
  rfl

/-- A rule for a name that has not only blanks matches the name that its value gives, in full and by
suffix, if it is a rule of a line.  If it is a rule of a catalog file, it does so exactly if the
value has neither blanks at its ends nor a full stop after it, unless another rule of its entry
matches that name. -/
theorem matches_ownName_iff (tag : String) (lines : List (List Char)) (e : Engine)
    (files : FileTree) (entry : Geo.DomainEntry) :
    (∀ line ∈ lines, ∀ given, Line.readDomain tag (Line.strip line) = .entry given →
      ∃ kind value, Line.domainRule? (Line.strip line) = some (kind, value) ∧
        (kind ≠ .pattern → trim value ≠ [] →
          ∃ rules, (RuleSet.ofLines .domain tag lines).1 = .domain rules ∧
            ∀ asked : MatchKind, asked ≠ .pattern →
              rules.matchesKind asked (ownName value) = true)) ∧
    (e.HasSiteEntry files entry → ∀ record ∈ entry.domains, ∀ kind,
      Geo.domainKind? record.kind = some kind → kind ≠ .pattern →
      trim record.value.toList ≠ [] →
      ∃ count rules, (e.rebuildSites files).1 = .ok count ∧
        (e.rebuildSites files).2.geoSite.get? (Tag.normalize entry.code) = some rules ∧
        ∀ asked : MatchKind, asked ≠ .pattern →
          (rules.matchesKind asked (ownName record.value.toList) = true ↔
            (trim record.value.toList = record.value.toList ∧
              record.value.toList.getLast? ≠ some '.') ∨
            ∃ other ∈ entry.rules, record.rule? ≠ some other ∧
              other.Answers asked (ownName record.value.toList))) := by
  refine ⟨fun line hline given => RuleSet.matches_ownName hline, ?_⟩
  intro hentry record hrecord kind hknown hkind hvalue
  obtain ⟨count, hcount, hrules⟩ := hentry.rebuildSites
  refine ⟨count, _, hcount, hrules, fun asked hasked => ?_⟩
  have hrule := Geo.DomainRecord.rule?_eq_some hknown hkind
  have hmem : _ ∈ entry.rules := List.mem_filterMap.mpr ⟨record, hrecord, hrule⟩
  rw [matchesKind_domainRulesOf, ← Geo.SiteRule.answers_ownName_iff hkind hasked hvalue]
  constructor
  · rintro ⟨other, hother, hanswers⟩
    by_cases hsame : record.rule? = some other
    · rw [hrule, Option.some.injEq] at hsame
      exact .inl (hsame ▸ hanswers)
    · exact .inr ⟨other, hother, hsame, hanswers⟩
  · rintro (hanswers | ⟨other, hother, -, hanswers⟩)
    · exact ⟨_, hmem, hanswers⟩
    · exact ⟨other, hother, hanswers⟩

/-- A directory with a catalog file of one entry. -/
def filesOf (entry : Geo.DomainEntry) : FileTree :=
  (FileTree.empty 0).put ["site.dat"] (.file ⟨Geo.writeDomainFile [entry], 0, true⟩)

def readingFile (codes : List String) : Engine :=
  { Engine.empty with
    geoSiteTags := codes
    catalog := .files none (some "site.dat") }

theorem hasSiteEntry_filesOf (hfits : Fits entry.write) {codes : List String}
    (hwanted : Geo.isWanted codes (Tag.normalize entry.code) = true) :
    (readingFile codes).HasSiteEntry (filesOf entry) entry :=
  .of_write [entry] (List.forall_mem_singleton.mpr hfits) rfl rfl hwanted (by simp)

/-- One name on a line with blanks, capital letters and a full stop, and in a file with capital
letters only. -/
theorem matches_ownName_iff_plain :
    let line := " ads : FULL : Example.COM. # a comment".toList
    let value := " Example.COM.".toList
    let entry : Geo.DomainEntry := ⟨"ADS", [⟨2, "Example.COM", []⟩]⟩
    let files := filesOf entry
    let e := readingFile ["ads"]
    Line.readDomain "ADS" (Line.strip line) = .entry (.name "example.com") ∧
      Line.domainRule? (Line.strip line) = some (.full, value) ∧
      ownName value = "example.com." ∧
      (∃ rules, (RuleSet.ofLines .domain "ADS" [line]).1 = .domain rules ∧
        rules.matchesFull "example.com." = true ∧ rules.matchesSuffix "example.com." = true) ∧
      e.HasSiteEntry files entry ∧
      ∃ rules, (e.rebuildSites files).2.geoSite.get? "ADS" = some rules ∧
        rules.matchesFull "example.com" = true ∧ rules.matchesSuffix "example.com" = true := by
  intro line value entry files e
  have hread : Line.readDomain "ADS" (Line.strip line) = .entry (.name "example.com") := by
    rfl
  have hrule : Line.domainRule? (Line.strip line) = some (.full, value) := by decide +kernel
  have hname : ownName value = "example.com." := by decide +kernel
  have hentry : e.HasSiteEntry files entry :=
    hasSiteEntry_filesOf (by unfold Fits; decide +kernel) (by decide +kernel)
  obtain ⟨hlines, hcatalog⟩ := matches_ownName_iff "ADS" [line] e files entry
  refine ⟨hread, hrule, hname, ?_, hentry, ?_⟩
  · obtain ⟨kind, given, hgiven, hown⟩ := hlines line (List.mem_singleton_self _) _ hread
    obtain ⟨rfl, rfl⟩ := Prod.mk.inj (Option.some.inj (hrule.symm.trans hgiven))
    obtain ⟨rules, hrules, hmatches⟩ := hown nofun (by decide +kernel)
    rw [hname] at hmatches
    exact ⟨rules, hrules, hmatches .full nofun, hmatches .domain nofun⟩
  · obtain ⟨count, rules, -, hrules, hmatches⟩ :=
      hcatalog hentry _ (List.mem_singleton_self _) .domain rfl nofun (by decide +kernel)
    have hplain : trim "Example.COM".toList = "Example.COM".toList ∧
        "Example.COM".toList.getLast? ≠ some '.' := by decide +kernel
    have hown : ownName "Example.COM".toList = "example.com" := by decide +kernel
    have hcode : Tag.normalize entry.code = "ADS" := by decide +kernel
    rw [hcode] at hrules
    simp only [hown] at hmatches
    exact ⟨rules, hrules, (hmatches .full nofun).mpr (.inl hplain),
      (hmatches .domain nofun).mpr (.inl hplain)⟩

/-- It is not so that a rule of a catalog file matches the name that its value gives.  The value
ends with the full stop of the root. -/
theorem not_matches_ownName :
    ¬∀ (e : Engine) (files : FileTree) (entry : Geo.DomainEntry), e.HasSiteEntry files entry →
      ∀ record ∈ entry.domains, ∀ kind, Geo.domainKind? record.kind = some kind →
      kind ≠ .pattern → trim record.value.toList ≠ [] →
      ∃ rules, (e.rebuildSites files).2.geoSite.get? (Tag.normalize entry.code) = some rules ∧
        rules.matchesFull (ownName record.value.toList) = true ∧
        rules.matchesSuffix (ownName record.value.toList) = true := by
  intro h
  let record : Geo.DomainRecord := ⟨3, "example.com.", []⟩
  let entry : Geo.DomainEntry := ⟨"ADS", [record]⟩
  have hentry : (readingFile ["ads"]).HasSiteEntry (filesOf entry) entry :=
    hasSiteEntry_filesOf (by unfold Fits; decide +kernel) (by decide +kernel)
  have hblank : trim record.value.toList ≠ [] := by decide +kernel
  obtain ⟨rules, hrules, hmatches, -⟩ :=
    h _ _ entry hentry record (List.mem_singleton_self _) .full rfl nofun hblank
  obtain ⟨count, -, hset⟩ := hentry.rebuildSites
  obtain rfl := Option.some.inj (hset.symm.trans hrules)
  change (domainRulesOf entry.rules).matchesKind .full _ = true at hmatches
  obtain ⟨rule, hmem, hanswers⟩ := matchesKind_domainRulesOf.mp hmatches
  obtain rfl := List.mem_singleton.mp hmem
  have hfull : MatchKind.full ≠ .pattern := nofun
  have hplain := (Geo.SiteRule.answers_ownName_iff hfull hfull hblank).mp hanswers
  exact hplain.2 (by decide +kernel)

end Engine

end TagRules
