import TagRules.Proofs.Engine.Charges
import TagRules.Proofs.Engine.DeclaredTables
import TagRules.Proofs.Engine.OwnNames
import TagRules.Proofs.Geo.DecodedNetworks
import TagRules.Proofs.Text.Capitals

/-
  How a tag is spelled.

  Tags are taken in any spelling, by tables, by the settings of an engine, by catalogs and by
  questions, and each of them brings the tag into canonical form by itself.  Some tags are
  brought into it more than once on their way, which changes nothing
  (`Tag.normalize_normalize`).

  To `respell` something is to change the spelling of all of its tags.  In canonical form it says
  what it said before (`afterQuery_respell`, `step_respell`, `ofOptions_respell`).  So things that
  are the same in canonical form are the same to an engine (`spelled_alike`).
-/

namespace TagRules

open Text Net

/-! ## Respelling -/

/-- The declaration with other spellings of its tags. -/
def Declaration.respell (f : String → String) (d : Declaration) : Declaration :=
  { d with tags := d.tags.map f }

def Options.respell (f : String → String) (o : Options) : Options :=
  { o with
    geoIpTags := o.geoIpTags.map f
    geoSiteTags := o.geoSiteTags.map f
    tables := o.tables.map (Declaration.respell f) }

def Geo.NetworkEntry.respell (f : String → String) (entry : NetworkEntry) : NetworkEntry :=
  { entry with code := f entry.code }

theorem Geo.NetworkEntry.nets_respell (f : String → String) (entry : NetworkEntry) :
    (entry.respell f).nets = entry.nets := rfl

def Geo.DomainEntry.respell (f : String → String) (entry : DomainEntry) : DomainEntry :=
  { entry with code := f entry.code }

theorem Geo.DomainEntry.rules_respell (f : String → String) (entry : DomainEntry) :
    (entry.respell f).rules = entry.rules := rfl

namespace Engine

def Setting.respell (f : String → String) : Setting → Setting
  | .geoCodes ipTags siteTags => .geoCodes (ipTags.map f) (siteTags.map f)
  | setting => setting

def Query.respell (f : String → String) : Query → Query
  | .geoNetwork tag n => .geoNetwork (f tag) n
  | .geoAddress tag a => .geoAddress (f tag) a
  | .tableNet tag n => .tableNet (f tag) n
  | .tableNetText tag text => .tableNetText (f tag) text
  | .net tag n => .net (f tag) n
  | .netText tag text => .netText (f tag) text
  | .site kind tag host => .site kind (f tag) host
  | .keyword tag host => .keyword (f tag) host
  | .client tag host => .client (f tag) host
  | .name now tag host => .name now (f tag) host
  | .tags now given host reverse => .tags now (given.map f) host reverse

def Operation.respell (f : String → String) : Operation → Operation
  | .set setting => .set (setting.respell f)
  | .declare d => .declare (d.respell f)
  | .put kind tag source steps => .put kind (f tag) source steps
  | .call kind tag forced => .call kind (f tag) forced
  | .ask q => .ask (q.respell f)
  | op => op

end Engine

/-! ## Catalogs -/

section

variable {tags tags' : List String} (h : tags.map Tag.normalize = tags'.map Tag.normalize)

include h

namespace Geo

variable {α β : Type}

theorem isWanted_congr (code : String) : isWanted tags code = isWanted tags' code := by
  unfold isWanted
  rw [← List.isEmpty_map (f := Tag.normalize), h, List.isEmpty_map]

theorem collect_congr (code : α → String) (value : α → β) (entries : List α) :
    collect code value tags entries = collect code value tags' entries := by
  unfold collect
  simp only [isWanted_congr h]

omit h in
theorem collect_respell (code : α → String) (value : α → β) {f : α → α}
    (hcode : ∀ entry, code (f entry) = Tag.normalize (code entry))
    (hvalue : ∀ entry, value (f entry) = value entry) (tags : List String) (entries : List α) :
    collect code value tags (entries.map f) = collect code value tags entries := by
  rw [collect_map tags (fun entry _ => hcode entry) fun entry _ => hvalue entry]
  unfold collect
  simp only [Tag.normalize_normalize]

theorem collect_congr_respell (code : α → String) (value : α → β) {f : α → α}
    {entries entries' : List α} (hentries : entries.map f = entries'.map f)
    (hcode : ∀ entry, code (f entry) = Tag.normalize (code entry))
    (hvalue : ∀ entry, value (f entry) = value entry) :
    collect code value tags entries = collect code value tags' entries' := by
  rw [← collect_respell code value hcode hvalue, hentries,
    collect_respell code value hcode hvalue, collect_congr h]

theorem decodeNetworks_congr {bytes bytes' : Bytes} {entries entries' : List NetworkEntry}
    (hread : readNetworkFile bytes = some entries)
    (hread' : readNetworkFile bytes' = some entries')
    (hentries : entries.map (NetworkEntry.respell Tag.normalize) =
      entries'.map (NetworkEntry.respell Tag.normalize)) :
    decodeNetworks tags bytes = decodeNetworks tags' bytes' := by
  unfold decodeNetworks
  rw [hread, hread', Option.map_some, Option.map_some]
  exact congrArg some (collect_congr_respell h NetworkEntry.code NetworkEntry.nets hentries
    (fun _ => rfl) (NetworkEntry.nets_respell _))

theorem decodeDomains_congr {bytes bytes' : Bytes} {entries entries' : List DomainEntry}
    (hread : readDomainFile bytes = some entries)
    (hread' : readDomainFile bytes' = some entries')
    (hentries : entries.map (DomainEntry.respell Tag.normalize) =
      entries'.map (DomainEntry.respell Tag.normalize)) :
    decodeDomains tags bytes = decodeDomains tags' bytes' := by
  unfold decodeDomains
  rw [hread, hread', Option.map_some, Option.map_some]
  exact congrArg some (collect_congr_respell h DomainEntry.code DomainEntry.rules hentries
    (fun _ => rfl) (DomainEntry.rules_respell _))

end Geo

namespace Catalog

open Geo

theorem select_congr {α : Type} (entries : Std.ExtTreeMap String α) :
    select tags entries = select tags' entries := by
  apply Std.ExtTreeMap.ext_getElem?
  intro key
  rw [getElem?_select, getElem?_select, isWanted_congr h]

/-- Of the catalogs that are given here, the one that has nothing complains about the tags as they
are written, and no other does. -/
theorem networksFor_congr {catalog : Catalog} (hgiven : catalog.IsGiven) (files : FileTree) :
    (catalog.networksFor files tags).toOption = (catalog.networksFor files tags').toOption := by
  cases hgiven with
  | nothing => rfl
  | memory networks domains => exact congrArg some (select_congr h networks)
  | files ipPath sitePath =>
    have hdecode : decodeNetworks tags = decodeNetworks tags' :=
      funext fun bytes => congrArg (Option.map · _) (funext (collect_congr h _ _))
    dsimp only [Catalog.files]
    rw [hdecode]

theorem domainsFor_congr {catalog : Catalog} (hgiven : catalog.IsGiven) (files : FileTree) :
    (catalog.domainsFor files tags).toOption = (catalog.domainsFor files tags').toOption := by
  cases hgiven with
  | nothing => rfl
  | memory networks domains => exact congrArg some (select_congr h domains)
  | files ipPath sitePath =>
    have hdecode : decodeDomains tags = decodeDomains tags' :=
      funext fun bytes => congrArg (Option.map · _) (funext (collect_congr h _ _))
    dsimp only [Catalog.files]
    rw [hdecode]

omit h in
theorem ofEntries_congr {networks networks' : List (String × List Network)}
    {domains domains' : List (String × List SiteRule)}
    (hnetworks : networks.map (Prod.map Tag.normalize id) =
      networks'.map (Prod.map Tag.normalize id))
    (hdomains : domains.map (Prod.map Tag.normalize id) =
      domains'.map (Prod.map Tag.normalize id)) :
    ofEntries networks domains = ofEntries networks' domains' := by
  have hsame : ∀ {α : Type} {entries entries' : List (String × α)},
      entries.map (Prod.map Tag.normalize id) = entries'.map (Prod.map Tag.normalize id) →
        addAll entries = addAll entries' := by
    intro α entries entries' hentries
    rw [addAll_eq_collect, addAll_eq_collect]
    exact collect_congr_respell rfl Prod.fst Prod.snd hentries (fun _ => rfl) (Prod.map_snd _ _)
  rw [ofEntries, hsame hnetworks, hsame hdomains, ofEntries]

end Catalog

end

namespace Engine

/-! ## Questions -/

theorem matchFirst_respell (e : Engine) (now : Nat) (name : String) (reverse : Bool)
    (tags : List String) :
    e.matchFirst now name reverse (tags.map Tag.normalize) =
      e.matchFirst now name reverse tags := by
  induction tags generalizing e with
  | nil => rfl
  | cons tag rest ih =>
    simp only [List.map_cons, matchFirst, Tag.normalize_normalize, ih]

theorem matchTags_respell (e : Engine) (now : Nat) (tags : List String) (name : String)
    (reverse : Bool) :
    e.matchTags now (tags.map Tag.normalize) name reverse = e.matchTags now tags name reverse := by
  rw [matchTags, List.isEmpty_map, matchFirst_respell, matchTags]

theorem forNetText_respell (e : Engine) {query : Engine → String → Net.Network → Bool × Engine}
    (h : ∀ tag n, query e (Tag.normalize tag) n = query e tag n) (tag text : String) :
    e.forNetText query (Tag.normalize tag) text = e.forNetText query tag text := by
  unfold forNetText
  split
  · exact h _ _
  · rfl

theorem matchTableNetText_respell (e : Engine) (tag text : String) :
    e.matchTableNetText (Tag.normalize tag) text = e.matchTableNetText tag text :=
  e.forNetText_respell (fun tag n => by simp only [matchTableNet, Tag.normalize_normalize]) tag text

theorem matchNetText_respell (e : Engine) (tag text : String) :
    e.matchNetText (Tag.normalize tag) text = e.matchNetText tag text :=
  e.forNetText_respell (fun tag n => by simp only [matchNet, Tag.normalize_normalize]) tag text

theorem answer_respell (e : Engine) (q : Query) :
    e.answer (q.respell Tag.normalize) = e.answer q := by
  cases q with
  | tags now tags name reverse => simp only [Query.respell, answer, matchTags_respell]
  | _ =>
    simp only [Query.respell, answer, matchGeoNetwork, matchGeoAddress, matchTableNet,
      matchTableNetText_respell, matchNet, matchNetText_respell, matchSite, matchKeyword,
      resolveClient, table?, matchName, Tag.normalize_normalize]

theorem afterQuery_respell (e : Engine) (q : Query) :
    e.afterQuery (q.respell Tag.normalize) = e.afterQuery q := by
  cases q with
  | tags now tags name reverse => simp only [Query.respell, afterQuery, matchTags_respell]
  | _ =>
    simp only [Query.respell, afterQuery, matchGeoNetwork, matchGeoAddress, matchTableNet,
      matchTableNetText_respell, matchNet, matchNetText_respell, matchSite, matchKeyword,
      resolveClient, table?, matchName, Tag.normalize_normalize]

/-! ## Tables -/

theorem create_respell (kind : TableKind) (tag : String) (source : Source) :
    Table.create kind (Tag.normalize tag) source = Table.create kind tag source := by
  unfold Table.create
  rw [Tag.normalize_normalize]

theorem run_normalize (d : Declaration) (given : String) (s : Surroundings) (timeout : Nat) :
    Load.run ⟨d, Tag.normalize given, s⟩ timeout = Load.run ⟨d, given, s⟩ timeout := by
  unfold Load.run Table.ofText Source.ofText Source.opensWith
  simp only [create_respell, Tag.normalize_normalize]

/-- Of its declaration a load takes the kind and the source only. -/
theorem run_respell (f : String → String) (d : Declaration) (given : String) (s : Surroundings)
    (timeout : Nat) :
    Load.run ⟨d.respell f, given, s⟩ timeout = Load.run ⟨d, given, s⟩ timeout := rfl

theorem addTags_respell (e : Engine) (d : Declaration) (s : Surroundings) (tags : List String) :
    e.addTags d.kind d.source s (tags.map Tag.normalize) = e.addTags d.kind d.source s tags := by
  induction tags generalizing e s with
  | nil => rfl
  | cons given rest ih => simp only [List.map_cons, addTags_cons, run_normalize, ih]

theorem givenTags_respell (d : Declaration) :
    (d.respell Tag.normalize).givenTags = d.givenTags.map Tag.normalize := by
  simp only [Declaration.givenTags, Declaration.respell, List.filter_map, Function.comp_def,
    Tag.isAllBlank_normalize]

theorem declare_respell (e : Engine) (d : Declaration) (s : Surroundings) :
    e.declare (d.respell Tag.normalize) s = e.declare d s := by
  show e.addTags d.kind d.source s (d.respell Tag.normalize).givenTags = _
  rw [givenTags_respell]
  exact e.addTags_respell d s d.givenTags

/-! ## Operations -/

theorem loaded_respell (h : History) (timeout : Nat) (d : Declaration) (s : Surroundings)
    (tags : List String) :
    h.loaded timeout (Load.each timeout s
        ((tags.map Tag.normalize).map fun given => (d.respell Tag.normalize, given))) =
      h.loaded timeout (Load.each timeout s (tags.map fun given => (d, given))) := by
  induction tags generalizing h s with
  | nil => rfl
  | cons given rest ih =>
    simp only [List.map_cons, Load.each, History.loaded, List.foldl_cons, run_respell,
      run_normalize, Tag.normalize_normalize]
    exact ih _ _

theorem withGeoCodes_respell (e : Engine) (ipTags siteTags : List String) :
    e.withGeoCodes (ipTags.map Tag.normalize) (siteTags.map Tag.normalize) =
      e.withGeoCodes ipTags siteTags := by
  simp only [withGeoCodes, List.map_map, Function.comp_def, Tag.normalize_normalize]

theorem callTable_respell (e : Engine) (kind : TableKind) (tag : String) (forced : Bool)
    (s : Surroundings) :
    e.callTable kind (Tag.normalize tag) forced s = e.callTable kind tag forced s := by
  unfold callTable table?
  rw [Tag.normalize_normalize]

theorem step_respell (c : Course) (op : Operation) :
    c.step (op.respell Tag.normalize) = c.step op := by
  cases op with
  | set setting =>
    cases setting with
    | geoCodes ipTags siteTags =>
      exact congrArg (Course.mk · c.surroundings c.history) (withGeoCodes_respell ..)
    | _ => rfl
  | declare d =>
    dsimp only [Operation.respell, Course.step]
    rw [declare_respell, givenTags_respell, loaded_respell]
  | put kind tag source steps =>
    dsimp only [Operation.respell, Course.step]
    rw [create_respell]
  | call kind tag forced =>
    dsimp only [Operation.respell, Course.step]
    rw [callTable_respell, table?, Tag.normalize_normalize, table?]
  | ask q =>
    dsimp only [Operation.respell, Course.step]
    rw [afterQuery_respell]
  | _ => rfl

theorem take_respell (c : Course) (ops : List Operation) :
    c.take (ops.map (Operation.respell Tag.normalize)) = c.take ops := by
  rw [Course.take, List.foldl_map]
  exact congrArg (fun f => ops.foldl f c) (funext₂ step_respell)

/-! ## Options -/

theorem declareAll_respell (e : Engine) (s : Surroundings) (ds : List Declaration) :
    e.declareAll s (ds.map (Declaration.respell Tag.normalize)) = e.declareAll s ds := by
  induction ds generalizing e s with
  | nil => rfl
  | cons d rest ih =>
    rw [List.map_cons, declareAll_cons, declareAll_cons, declare_respell, ih]

theorem isTagless_respell (d : Declaration) :
    (d.respell Tag.normalize).isTagless = d.isTagless := by
  simp only [Declaration.isTagless, Declaration.respell, List.all_map, Function.comp_def,
    Tag.isAllBlank_normalize]

theorem validate_respell (o : Options) : (o.respell Tag.normalize).validate = o.validate := by
  have hfault : (o.respell Tag.normalize).fault? = o.fault? := by
    unfold Options.fault? Options.respell
    simp only [List.find?_map, Option.map_map, Function.comp_def, isTagless_respell]
    rfl
  unfold Options.validate
  rw [hfault]

theorem configured_respell (o : Options) : configured (o.respell Tag.normalize) = configured o := by
  unfold configured
  rw [validate_respell]
  simp only [Options.respell, withGeoCodes_respell]
  rfl

theorem declareOptions_respell (e : Engine) (o : Options) (s : Surroundings) :
    e.declareOptions (o.respell Tag.normalize) s = e.declareOptions o s := by
  unfold declareOptions Options.respell
  rw [declareAll_respell]

theorem ofOptions_respell (o : Options) (s : Surroundings) :
    ofOptions (o.respell Tag.normalize) s = ofOptions o s := by
  unfold ofOptions
  rw [configured_respell]
  simp only [declareOptions_respell]

/-! ## Sets of configured codes -/

/-- The set of a code that was configured is that of the last entry with the code in a file. -/
theorem get?_rebuildNetworks {e : Engine} {files : FileTree} {path : String}
    {sitePath : Option String} {bytes : Bytes} {entries : List Geo.NetworkEntry}
    (hcatalog : e.catalog = .files (some path) sitePath) (hfile : files.read path = .ok bytes)
    (hread : Geo.readNetworkFile bytes = some entries) {ipTags : List String} {tag : String}
    (htag : tag ∈ ipTags) {entry : Geo.NetworkEntry}
    (hlast : Geo.IsLast Geo.NetworkEntry.code entries (Tag.normalize tag) entry)
    (siteTags : List String) :
    ((e.withGeoCodes ipTags siteTags).rebuildNetworks files).2.geoIp.get? (Tag.normalize tag) =
      some (NetworkRules.ofList entry.nets) := by
  have hwanted : Geo.isWanted (ipTags.map Tag.normalize) (Tag.normalize tag) = true :=
    Geo.isWanted_iff.mpr (.inr ⟨_, List.mem_map_of_mem htag, Tag.normalize_normalize tag⟩)
  have hload : (Catalog.files (some path) sitePath).networksFor files (ipTags.map Tag.normalize) =
      .ok (Geo.collect Geo.NetworkEntry.code Geo.NetworkEntry.nets (ipTags.map Tag.normalize)
        entries) := by
    refine Catalog.loadFile_eq_ok.mpr ⟨path, bytes, rfl, hfile, ?_⟩
    rw [Geo.decodeNetworks, hread, Option.map_some]
  have hfound : listed ((Catalog.files (some path) sitePath).networksFor files
      (ipTags.map Tag.normalize)) (Tag.normalize tag) = some entry.nets := by
    rw [hload]
    dsimp only [listed]
    rw [Geo.getElem?_collect, if_pos hwanted, Geo.lastValue_eq_some_iff]
    exact ⟨entry, hlast, rfl⟩
  rw [rebuildNetworks_get?, show (e.withGeoCodes ipTags siteTags).catalog = e.catalog from rfl,
    hcatalog, show (e.withGeoCodes ipTags siteTags).geoIpTags = ipTags.map Tag.normalize from rfl,
    hfound]
  rfl

theorem get?_rebuildSites {e : Engine} {files : FileTree} {path : String} {ipPath : Option String}
    {bytes : Bytes} {entries : List Geo.DomainEntry}
    (hcatalog : e.catalog = .files ipPath (some path)) (hfile : files.read path = .ok bytes)
    (hread : Geo.readDomainFile bytes = some entries) {siteTags : List String} {tag : String}
    (htag : tag ∈ siteTags) {entry : Geo.DomainEntry}
    (hlast : Geo.IsLast Geo.DomainEntry.code entries (Tag.normalize tag) entry)
    (ipTags : List String) :
    ((e.withGeoCodes ipTags siteTags).rebuildSites files).2.geoSite.get? (Tag.normalize tag) =
      some (domainRulesOf entry.rules) := by
  have hfound : Geo.lastValue Geo.DomainEntry.code id entries (Tag.normalize tag) = some entry :=
    Geo.lastValue_eq_some_iff.mpr ⟨entry, hlast, rfl⟩
  obtain ⟨-, -, -, hcode, -⟩ := hlast
  rw [← hcode] at hfound ⊢
  have hwanted : Geo.isWanted (siteTags.map Tag.normalize) (Tag.normalize entry.code) = true :=
    Geo.isWanted_iff.mpr
      (.inr ⟨_, List.mem_map_of_mem htag, (Tag.normalize_normalize tag).trans hcode.symm⟩)
  have hentry : (e.withGeoCodes ipTags siteTags).HasSiteEntry files entry :=
    ⟨hwanted, ipPath, path, bytes, entries, hcatalog, hfile, hread, by
      rwa [Geo.lastValue, Option.map_id] at hfound⟩
  obtain ⟨-, -, hget⟩ := hentry.rebuildSites
  exact hget

/-! ## All spellings -/

/-- One normalization of a tag is as good as several.  So it makes no difference how tags are
spelled:
  * operations that are the same in canonical form lead to the same engine with the same history,
    and so do options;
  * questions that are the same in canonical form have the same answer and leave the same
    engine, with what is remembered and counted;
  * a table that was put in under one spelling is found under every other, and spellings have the
    same listings;
  * what the catalogs that are given here have for tags, and what files have for them under their
    own codes, does not depend on the spelling of either;
  * a code that was configured gets the set of the last entry that has the code in a file. -/
theorem spelled_alike :
    (∀ (k : Nat) (tag : String), Tag.normalize^[k + 1] tag = Tag.normalize tag) ∧
    (∀ (c : Course) (ops ops' : List Operation),
      ops.map (Operation.respell Tag.normalize) = ops'.map (Operation.respell Tag.normalize) →
        c.take ops = c.take ops') ∧
    (∀ (o o' : Options) (s : Surroundings),
      o.respell Tag.normalize = o'.respell Tag.normalize → ofOptions o s = ofOptions o' s) ∧
    (∀ (e : Engine) (q q' : Query), q.respell Tag.normalize = q'.respell Tag.normalize →
      e.answer q = e.answer q' ∧ e.afterQuery q = e.afterQuery q') ∧
    (∀ (e : Engine) (first second : String), Tag.normalize first = Tag.normalize second →
      (∀ target limit, e.list target first limit = e.list target second limit) ∧
      ∀ kind source, (e.putTable (.create kind first source)).table? kind second =
        some (.create kind first source)) ∧
    (∀ tags tags' : List String, tags.map Tag.normalize = tags'.map Tag.normalize →
      (∀ (catalog : Catalog) (files : FileTree), catalog.IsGiven →
        (catalog.networksFor files tags).toOption = (catalog.networksFor files tags').toOption ∧
        (catalog.domainsFor files tags).toOption = (catalog.domainsFor files tags').toOption) ∧
      (∀ bytes bytes' entries entries', Geo.readNetworkFile bytes = some entries →
        Geo.readNetworkFile bytes' = some entries' →
        entries.map (Geo.NetworkEntry.respell Tag.normalize) =
          entries'.map (Geo.NetworkEntry.respell Tag.normalize) →
        Geo.decodeNetworks tags bytes = Geo.decodeNetworks tags' bytes') ∧
      ∀ bytes bytes' entries entries', Geo.readDomainFile bytes = some entries →
        Geo.readDomainFile bytes' = some entries' →
        entries.map (Geo.DomainEntry.respell Tag.normalize) =
          entries'.map (Geo.DomainEntry.respell Tag.normalize) →
        Geo.decodeDomains tags bytes = Geo.decodeDomains tags' bytes') ∧
    (∀ networks networks' domains domains',
      networks.map (Prod.map Tag.normalize id) = networks'.map (Prod.map Tag.normalize id) →
      domains.map (Prod.map Tag.normalize id) = domains'.map (Prod.map Tag.normalize id) →
        Catalog.ofEntries networks domains = Catalog.ofEntries networks' domains') ∧
    ∀ (e : Engine) (files : FileTree) (ipTags siteTags : List String) (tag path : String)
      (other : Option String) (bytes : Bytes), files.read path = .ok bytes →
      (∀ entries entry, tag ∈ ipTags → e.catalog = .files (some path) other →
        Geo.readNetworkFile bytes = some entries →
        Geo.IsLast Geo.NetworkEntry.code entries (Tag.normalize tag) entry →
        ((e.withGeoCodes ipTags siteTags).rebuildNetworks files).2.geoIp.get?
          (Tag.normalize tag) = some (NetworkRules.ofList entry.nets)) ∧
      ∀ entries entry, tag ∈ siteTags → e.catalog = .files other (some path) →
        Geo.readDomainFile bytes = some entries →
        Geo.IsLast Geo.DomainEntry.code entries (Tag.normalize tag) entry →
        ((e.withGeoCodes ipTags siteTags).rebuildSites files).2.geoSite.get?
          (Tag.normalize tag) = some (domainRulesOf entry.rules) := by
  refine ⟨Tag.normalize_iterate, ?_, ?_, ?_, ?_, ?_, ?_, ?_⟩
  · intro c ops ops' h
    rw [← take_respell, h, take_respell]
  · intro o o' s h
    rw [← ofOptions_respell, h, ofOptions_respell]
  · intro e q q' h
    rw [← answer_respell e q, ← afterQuery_respell e q, h, answer_respell, afterQuery_respell]
    exact ⟨rfl, rfl⟩
  · intro e first second h
    refine ⟨fun target limit => ?_, fun kind source => ?_⟩
    · simp only [list, h]
    · obtain ⟨hkind, htag⟩ := Table.create_frame kind first source
      rw [table?, putTable, TableIndexes.get?_insert, hkind, htag, if_pos ⟨rfl, h.symm⟩]
  · intro tags tags' h
    refine ⟨fun catalog files hgiven => ⟨Catalog.networksFor_congr h hgiven files,
      Catalog.domainsFor_congr h hgiven files⟩, ?_, ?_⟩
    · intro bytes bytes' entries entries' hread hread' hentries
      exact Geo.decodeNetworks_congr h hread hread' hentries
    · intro bytes bytes' entries entries' hread hread' hentries
      exact Geo.decodeDomains_congr h hread hread' hentries
  · intro networks networks' domains domains' hnetworks hdomains
    exact Catalog.ofEntries_congr hnetworks hdomains
  · intro e files ipTags siteTags tag path other bytes hfile
    refine ⟨?_, ?_⟩
    · intro entries entry htag hcatalog hread hlast
      exact get?_rebuildNetworks hcatalog hfile hread htag hlast siteTags
    · intro entries entry htag hcatalog hread hlast
      exact get?_rebuildSites hcatalog hfile hread htag hlast ipTags

/-- A letter with two capitals, and the same in two letters. -/
theorem spelled_alike_sharp :
    let first := " ß "
    let second := "Ss"
    let entry : String → Geo.NetworkEntry := fun code => ⟨code, [⟨[1, 0, 1, 0], 24⟩], false⟩
    let bytes : String → Bytes := fun code => Geo.writeNetworkFile [entry code]
    let files := (FileTree.empty 0).put ["ip.dat"] (.file ⟨bytes first, 0, true⟩)
    let e : Engine := { Engine.empty with catalog := .files (some "ip.dat") none }
    let q : String → Query := fun tag => .name 0 tag "banner.example"
    let ops : String → List Operation := fun tag =>
      [.declare ⟨.keyword, [tag], "SS banner"⟩, .ask (q tag)]
    let o : String → Options := fun tag => { Options.standard with geoIpTags := [tag] }
    Tag.normalize first = "SS" ∧ Tag.normalize^[3] first = Tag.normalize second ∧
      (∀ c : Course, c.take (ops first) = c.take (ops second)) ∧
      (∀ s, ofOptions (o first) s = ofOptions (o second) s) ∧
      e.answer (q first) = e.answer (q second) ∧
      e.list (.table .keyword) first none = e.list (.table .keyword) second none ∧
      Geo.decodeNetworks [first] (bytes second) = Geo.decodeNetworks [second] (bytes first) ∧
      Catalog.ofEntries [(first, [])] [] = Catalog.ofEntries [(second, [])] [] ∧
      ((e.withGeoCodes [second] []).rebuildNetworks files).2.geoIp.get? "SS" =
        some (NetworkRules.ofList (entry first).nets) := by
  intro first second entry bytes files e q ops o
  obtain ⟨hagain, hops, hoptions, hquery, hlist, htags, hentries, hset⟩ := spelled_alike
  have hfirst : Tag.normalize first = "SS" := by decide +kernel
  have hsecond : Tag.normalize second = "SS" := by decide +kernel
  have halike := hfirst.trans hsecond.symm
  have hread : ∀ code ∈ [first, second],
      Geo.readNetworkFile (bytes code) = some [entry code] := by
    intro code hcode
    refine Geo.readNetworkFile_write (List.forall_mem_singleton.mpr ?_)
    revert code
    unfold Wire.Fits
    decide +kernel
  have hreadFirst := hread first (by simp)
  have hreadSecond := hread second (by simp)
  refine ⟨hfirst, (hagain 2 first).trans halike, fun c => hops c _ _ ?_, fun s => hoptions _ _ s ?_,
    (hquery e _ _ ?_).1, (hlist e first second halike).1 _ _, ?_, hentries _ _ [] [] ?_ rfl, ?_⟩
  · simp [ops, q, Operation.respell, Declaration.respell, Query.respell, halike]
  · simp [o, Options.respell, halike]
  · simp [q, Query.respell, halike]
  · refine (htags [first] [second] ?_).2.1 _ _ _ _ hreadSecond hreadFirst ?_
    · simp [halike]
    · simp [entry, Geo.NetworkEntry.respell, halike]
  · simp [halike]
  · have hlast : Geo.IsLast Geo.NetworkEntry.code [entry first] (Tag.normalize second)
        (entry first) := ⟨[], [], rfl, halike, nofun⟩
    rw [← hsecond]
    exact (hset e files [second] [] second "ip.dat" none (bytes first) rfl).1 _ _
      List.mem_cons_self rfl hreadFirst hlast

end Engine

end TagRules
