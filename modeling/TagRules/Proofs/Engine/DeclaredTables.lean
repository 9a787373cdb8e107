import Mathlib.Data.List.Induction
import TagRules.Engine.Startup
import TagRules.Proofs.Declaration.Manifests
import TagRules.Proofs.Engine.DeclaredSources
import TagRules.Proofs.Engine.GeoSets
import TagRules.Proofs.Surroundings.Places

/-
  The tables of an engine that options describe.

  A declaration gives a table for each of its tags that is not blank, under the canonical
  form of the tag.  The tables are loaded one after the other, those of the options first
  and those of the lines of their manifest after it was read, so that a load meets the
  surroundings with the requests of those before it.  An engine `HasTables` of some loads
  if every table is what the last load for its kind and tag makes of it.  One more load
  keeps this (`HasTables.load`), and so all loads of a declaration and of several do.

  The last load for a kind and a tag is one of the last declaration that gives the table
  (`isLast_of_last`).  A table whose load failed is there, without rules and never read, and
  no other table is like that.
-/

namespace TagRules

open Text

/-! ## The first load of a table -/

theorem RuleSet.size_empty (kind : TableKind) : (RuleSet.empty kind).size = 0 := by
  cases kind <;> rfl

namespace Table

/-- A new table that was loaded has no rules and was never read exactly if the load failed. -/
theorem load_create_failed (kind : TableKind) (tag : String) (source : Source) (timeout : Nat)
    (s : Surroundings) :
    ((create kind tag source).load timeout s).2.1.size = 0 ∧
        ((create kind tag source).load timeout s).2.1.wasRead = false ↔
      ∃ fault, ((create kind tag source).load timeout s).1 = .error fault := by
  unfold load
  rw [refresh_eq]
  cases source with
  | inline text => exact ⟨fun h => (nomatch h.2), nofun⟩
  | file path =>
    unfold create Source.view
    dsimp only
    cases s.files.metadata path with
    | error fault => exact ⟨fun _ => ⟨_, rfl⟩, fun _ => ⟨RuleSet.size_empty kind, rfl⟩⟩
    | ok seen =>
      cases s.files.read path with
      | error fault => exact ⟨fun _ => ⟨_, rfl⟩, fun _ => ⟨RuleSet.size_empty kind, rfl⟩⟩
      | ok content => exact ⟨fun h => (nomatch h.2), nofun⟩
  | url u =>
    unfold create Source.view
    dsimp only
    cases s.remote.answer u with
    | ok body => exact ⟨fun h => (nomatch h.2), nofun⟩
    | error fault => exact ⟨fun _ => ⟨_, rfl⟩, fun _ => ⟨RuleSet.size_empty kind, rfl⟩⟩

end Table

/-! ## Indexes -/

namespace TableIndex

theorem mem_tags {index : TableIndex} {tag : String} :
    tag ∈ index.tags ↔ ∃ t, index.get? tag = some t := by
  unfold tags get?
  rw [Std.ExtTreeMap.mem_keys, Std.ExtTreeMap.mem_iff_isSome_getElem?, Option.isSome_iff_exists]

end TableIndex

/-! ## Which declaration a table is from -/

namespace Declaration

variable {d : Declaration} {ds : List Declaration} {kind : TableKind} {tag : String}

/-- A declaration gives a table for a kind and a tag in canonical form. -/
def Gives (d : Declaration) (kind : TableKind) (tag : String) : Prop :=
  d.kind = kind ∧ ∃ given ∈ d.givenTags, Tag.normalize given = tag

/-- The last of some declarations that gives a table for a kind and a tag. -/
def IsLast (ds : List Declaration) (kind : TableKind) (tag : String) (d : Declaration) : Prop :=
  ∃ before after, ds = before ++ d :: after ∧ d.Gives kind tag ∧
    ∀ later ∈ after, ¬later.Gives kind tag

/-- The tags of some declarations that get a table, each with its declaration. -/
def tagged (ds : List Declaration) : List (Declaration × String) :=
  ds.flatMap fun d => d.givenTags.map fun given => (d, given)

theorem isLast_concat_iff {last : Declaration} :
    IsLast (ds ++ [d]) kind tag last ↔
      d.Gives kind tag ∧ last = d ∨ ¬d.Gives kind tag ∧ IsLast ds kind tag last := by
  constructor
  · rintro ⟨before, after, hcut, hgives, hlater⟩
    rcases after.eq_nil_or_concat with rfl | ⟨rest, x, rfl⟩
    · obtain ⟨-, rfl⟩ := List.append_singleton_inj.mp hcut
      exact .inl ⟨hgives, rfl⟩
    · rw [List.concat_eq_append, ← List.cons_append, ← List.append_assoc] at hcut
      obtain ⟨rfl, rfl⟩ := List.append_singleton_inj.mp hcut
      rw [List.concat_eq_append] at hlater
      exact .inr ⟨hlater d (by simp), before, rest, rfl, hgives,
        fun later hmem => hlater later (List.mem_append_left _ hmem)⟩
  · rintro (⟨hgives, rfl⟩ | ⟨hnot, before, after, rfl, hgives, hlater⟩)
    · exact ⟨ds, [], rfl, hgives, nofun⟩
    · refine ⟨before, after ++ [d], by simp, hgives, ?_⟩
      intro later hmem
      rcases List.mem_append.mp hmem with hmem | hmem
      · exact hlater later hmem
      · rwa [List.mem_singleton.mp hmem]

end Declaration

namespace Load

variable {kind : TableKind} {tag : String} {timeout : Nat} {s : Surroundings}

/-- Whether a load is that of a table for a kind and a tag in canonical form. -/
def isFor (kind : TableKind) (tag : String) (l : Load) : Bool :=
  l.declaration.kind == kind && Tag.normalize l.given == tag

/-- The last of some loads for a kind and a tag. -/
def last (loads : List Load) (kind : TableKind) (tag : String) : Option Load :=
  loads.reverse.find? (isFor kind tag)

theorem isFor_iff {l : Load} :
    l.isFor kind tag = true ↔ l.declaration.kind = kind ∧ Tag.normalize l.given = tag := by
  simp [isFor]

theorem last_append_singleton (loads : List Load) (l : Load) :
    last (loads ++ [l]) kind tag = if l.isFor kind tag then some l else last loads kind tag := by
  unfold last
  rw [List.reverse_append, List.reverse_singleton, List.singleton_append, List.find?_cons]
  cases l.isFor kind tag <;> rfl

theorem last_append_of_not {loads more : List Load} (h : ∀ l ∈ more, l.isFor kind tag = false) :
    last (loads ++ more) kind tag = last loads kind tag := by
  unfold last
  rw [List.reverse_append, List.find?_append, List.find?_eq_none.mpr, Option.none_or]
  intro l hl
  simp [h l (List.mem_reverse.mp hl)]

theorem last_append_of_mem {loads more : List Load} (h : ∃ l ∈ more, l.isFor kind tag = true) :
    last (loads ++ more) kind tag = last more kind tag := by
  obtain ⟨l, hl, hfor⟩ := h
  have hsome : (more.reverse.find? (isFor kind tag)).isSome = true :=
    List.find?_isSome.mpr ⟨l, List.mem_reverse.mpr hl, hfor⟩
  unfold last
  rw [List.reverse_append, List.find?_append, Option.or_of_isSome hsome]

theorem last_isSome {loads : List Load} :
    (last loads kind tag).isSome = true ↔ ∃ l ∈ loads, l.isFor kind tag = true := by
  unfold last
  rw [List.find?_isSome]
  simp only [List.mem_reverse]

theorem failed_run (l : Load) (timeout : Nat) :
    (l.run timeout).2.1.size = 0 ∧ (l.run timeout).2.1.wasRead = false ↔
      ∃ fault, (l.run timeout).1 = .error fault := by
  unfold run Table.ofText
  exact Table.load_create_failed ..

end Load

namespace Declaration

variable {ds : List Declaration} {kind : TableKind} {tag : String} {loads : List Load}

theorem tagged_append (ds more : List Declaration) :
    tagged (ds ++ more) = tagged ds ++ tagged more := List.flatMap_append

theorem tagged_singleton (d : Declaration) :
    tagged [d] = d.givenTags.map fun given => (d, given) := List.flatMap_singleton ..

theorem exists_gives_iff (h : loads.map Load.tagged = tagged ds) :
    (∃ d ∈ ds, d.Gives kind tag) ↔ ∃ l ∈ loads, l.isFor kind tag = true := by
  have hloads : (∃ l ∈ loads, l.isFor kind tag = true) ↔
      ∃ p ∈ tagged ds, p.1.kind = kind ∧ Tag.normalize p.2 = tag := by
    rw [← h]
    simp only [List.mem_map, exists_exists_and_eq_and, Load.isFor_iff, Load.tagged]
  rw [hloads]
  simp only [tagged, List.mem_flatMap, List.mem_map, Gives]
  constructor
  · rintro ⟨d, hd, hkind, given, hgiven, htag⟩
    exact ⟨(d, given), ⟨d, hd, given, hgiven, rfl⟩, hkind, htag⟩
  · rintro ⟨_, ⟨d, hd, given, hgiven, rfl⟩, hkind, htag⟩
    exact ⟨d, hd, hkind, given, hgiven, htag⟩

/-- The last load for a table is one of the last declaration that gives it.  By induction on the
declarations from the last one, which has no load for the table or all that count. -/
theorem isLast_of_last {l : Load} (h : loads.map Load.tagged = tagged ds)
    (hlast : Load.last loads kind tag = some l) : IsLast ds kind tag l.declaration := by
  induction ds using List.reverseRecOn generalizing loads with
  | nil =>
    obtain rfl := List.map_eq_nil_iff.mp h
    cases hlast
  | append_singleton ds d ih =>
    rw [tagged_append] at h
    obtain ⟨before, own, rfl, hbefore, hown⟩ := List.map_eq_append_iff.mp h
    have hgives : d.Gives kind tag ↔ ∃ l ∈ own, l.isFor kind tag = true := by
      rw [← exists_gives_iff hown]
      simp only [List.mem_singleton, exists_eq_left]
    -- If the last declaration has no load for the table, the one before it counts.
    by_cases hgiven : d.Gives kind tag
    · rw [Load.last_append_of_mem (hgives.mp hgiven)] at hlast
      have hmem : l.tagged ∈ tagged [d] := by
        rw [← hown]
        exact List.mem_map_of_mem (List.mem_reverse.mp (List.mem_of_find?_eq_some hlast))
      rw [tagged_singleton] at hmem
      obtain ⟨_, -, hsame⟩ := List.mem_map.mp hmem
      exact isLast_concat_iff.mpr (.inl ⟨hgiven, (Prod.mk.inj hsame).1.symm⟩)
    · have hnone : ∀ l ∈ own, l.isFor kind tag = false := fun l hl =>
        Bool.eq_false_iff.mpr fun hfor => hgiven (hgives.mpr ⟨l, hl, hfor⟩)
      rw [Load.last_append_of_not hnone] at hlast
      exact isLast_concat_iff.mpr (.inr ⟨hgiven, ih hbefore hlast⟩)

end Declaration

namespace Engine

variable {e : Engine} {ds : List Declaration} {loads : List Load} {s s' : Surroundings}

/-! ## Declarations one after the other -/

theorem addTags_surroundings (e : Engine) (d : Declaration) (s : Surroundings)
    (tags : List String) :
    (e.addTags d.kind d.source s tags).2.2 =
      Load.after e.fetchTimeout s (tags.map fun given => (d, given)) := by
  induction tags generalizing e s with
  | nil => rfl
  | cons given rest ih =>
    rw [addTags_cons, List.map_cons, Load.after_cons]
    exact ih _ _

theorem declareAll_cons (e : Engine) (s : Surroundings) (d : Declaration)
    (rest : List Declaration) :
    e.declareAll s (d :: rest) = (e.declare d s).2.1.declareAll (e.declare d s).2.2 rest := rfl

theorem declareAll_frame (e : Engine) (s : Surroundings) (ds : List Declaration) :
    (e.declareAll s ds).1.fetchTimeout = e.fetchTimeout := by
  induction ds generalizing e s with
  | nil => rfl
  | cons d rest ih => rw [declareAll_cons, ih, declare_frame]

/-- An engine has the tables that some loads make, the last one for every kind and tag, and no
others. -/
def HasTables (e : Engine) (loads : List Load) : Prop :=
  ∀ kind tag, e.tables.get? kind tag =
    (Load.last loads kind tag).map fun l => (l.run e.fetchTimeout).2.1

namespace HasTables

/-- One more load replaces the table that it is for. -/
theorem load (h : e.HasTables loads) (l : Load) :
    HasTables
      { e with tables := e.tables.insert l.declaration.kind (l.run e.fetchTimeout).2.1 }
      (loads ++ [l]) := by
  intro kind tag
  have htag := (l.run_frame e.fetchTimeout).2
  dsimp only
  rw [Load.last_append_singleton, TableIndexes.get?_insert, htag]
  by_cases hfor : l.isFor kind tag = true
  · obtain ⟨hkind, hgiven⟩ := Load.isFor_iff.mp hfor
    rw [if_pos hfor, if_pos ⟨hkind.symm, hgiven.symm⟩, Option.map_some]
  · have hne : ¬(kind = l.declaration.kind ∧ tag = Tag.normalize l.given) :=
      fun hsame => hfor (Load.isFor_iff.mpr ⟨hsame.1.symm, hsame.2.symm⟩)
    rw [if_neg hfor, if_neg hne]
    exact h kind tag

theorem addTags (h : e.HasTables loads) (d : Declaration) (s : Surroundings)
    (tags : List String) :
    (e.addTags d.kind d.source s tags).2.1.HasTables
      (loads ++ Load.each e.fetchTimeout s (tags.map fun given => (d, given))) := by
  induction tags generalizing e s loads with
  | nil => rwa [List.map_nil, Load.each, List.append_nil]
  | cons given rest ih =>
    have hrest := ih (h.load ⟨d, given, s⟩) (Load.run ⟨d, given, s⟩ e.fetchTimeout).2.2
    rw [List.append_assoc] at hrest
    rw [addTags_cons, List.map_cons, Load.each_cons]
    exact hrest

theorem declareAll (h : e.HasTables loads) (s : Surroundings) (ds : List Declaration) :
    (e.declareAll s ds).1.HasTables
        (loads ++ Load.each e.fetchTimeout s (Declaration.tagged ds)) ∧
      (e.declareAll s ds).2 = Load.after e.fetchTimeout s (Declaration.tagged ds) := by
  induction ds generalizing e s loads with
  | nil => exact ⟨by rwa [Declaration.tagged, List.flatMap_nil, Load.each, List.append_nil], rfl⟩
  | cons d rest ih =>
    have hfirst : (e.declare d s).2.1.HasTables
        (loads ++ Load.each e.fetchTimeout s (Declaration.tagged [d])) := by
      rw [Declaration.tagged_singleton]
      exact h.addTags d s d.givenTags
    have hafter : (e.declare d s).2.2 = Load.after e.fetchTimeout s (Declaration.tagged [d]) := by
      rw [Declaration.tagged_singleton]
      exact e.addTags_surroundings d s d.givenTags
    have htimeout : (e.declare d s).2.1.fetchTimeout = e.fetchTimeout := by rw [declare_frame]
    obtain ⟨htables, hsurroundings⟩ := ih hfirst (e.declare d s).2.2
    rw [htimeout, hafter, List.append_assoc, ← Load.each_append, ← Declaration.tagged_append]
      at htables
    rw [htimeout, hafter, ← Load.after_append, ← Declaration.tagged_append] at hsurroundings
    rw [declareAll_cons, hafter]
    exact ⟨htables, hsurroundings⟩

end HasTables

/-! ## Manifests -/

/-- The lines of the manifest of options, which is at a URL or in a file, and what is around after
it was read.  There are none without a manifest, or with one that is neither. -/
inductive ManifestRead (timeout : Nat) (s : Surroundings) :
    Option String → List (List Char) → Surroundings → Prop where
  | unnamed : ManifestRead timeout s none [] s
  | url {manifest : String} {body : Bytes} : isUrl manifest.toList = true →
      s.remote.answer manifest = .ok body →
      ManifestRead timeout s (some manifest) (lines (ofUtf8Lossy body))
        { s with remote := s.remote.count manifest timeout }
  | file {manifest text : String} : isUrl manifest.toList = false →
      s.files.isFile manifest = true → s.files.readText manifest = .ok text →
      ManifestRead timeout s (some manifest) (lines text.toList) s
  | neither {manifest : String} : isUrl manifest.toList = false →
      s.files.isFile manifest = false → ManifestRead timeout s (some manifest) [] s

theorem ManifestRead.onlyRequests {timeout : Nat} {manifest : Option String}
    {ls : List (List Char)} (h : ManifestRead timeout s manifest ls s') : s.OnlyRequests s' := by
  cases h with
  | unnamed | file | neither => exact .refl s
  | url => exact ⟨rfl, .count s.remote _ timeout⟩

theorem manifestDeclarations_ok {manifest : String}
    (h : e.manifestDeclarations manifest s = (.ok ds, s')) :
    ∃ ls, ManifestRead e.fetchTimeout s (some manifest) ls s' ∧
      ds = Declaration.declarations ls := by
  unfold manifestDeclarations at h
  split at h
  · next hurl =>
    split at h
    · next body after hfetch =>
      obtain ⟨hds, rfl⟩ := Prod.mk.inj h
      obtain rfl := Except.ok.inj hds
      obtain ⟨hbody, rfl⟩ := Prod.mk.inj hfetch
      exact ⟨_, .url hurl hbody, Declaration.ofManifestLenient_eq _⟩
    · cases h
  · next hurl =>
    have hurl := Bool.eq_false_iff.mpr hurl
    split at h
    · next hfile =>
      split at h
      · next text htext =>
        obtain ⟨hds, rfl⟩ := Prod.mk.inj h
        obtain rfl := Except.ok.inj hds
        exact ⟨_, .file hurl hfile htext, Declaration.ofManifestLenient_eq _⟩
      · cases h
    · next hfile =>
      obtain ⟨hds, rfl⟩ := Prod.mk.inj h
      obtain rfl := Except.ok.inj hds
      exact ⟨[], .neither hurl (Bool.eq_false_iff.mpr hfile), rfl⟩

/-! ## Engines from options -/

/-- The loads of the tables of options from some surroundings on: those that they name themselves,
and those of the lines of their manifest from the surroundings in which it was read. -/
def startupLoads (o : Options) (ls : List (List Char)) (begun read : Surroundings) : List Load :=
  Load.each o.fetchTimeout begun (Declaration.tagged o.tables) ++
    Load.each o.fetchTimeout read (Declaration.tagged (Declaration.declarations ls))

theorem map_startupLoads (o : Options) (ls : List (List Char)) (begun read : Surroundings) :
    (startupLoads o ls begun read).map Load.tagged =
      Declaration.tagged (o.tables ++ Declaration.declarations ls) := by
  rw [startupLoads, List.map_append, Load.map_each, Load.map_each, Declaration.tagged_append]

/-- The tables of options come before those of the manifest. -/
theorem declareOptions_hasTables {o : Options} {e' : Engine} (h : e.HasTables [])
    (htimeout : e.fetchTimeout = o.fetchTimeout)
    (hdone : e.declareOptions o s = (.ok e', s')) :
    e'.fetchTimeout = o.fetchTimeout ∧ ∃ ls read,
      ManifestRead o.fetchTimeout
          (Load.after o.fetchTimeout s (Declaration.tagged o.tables)) o.manifest ls read ∧
        e'.HasTables (startupLoads o ls s read) := by
  obtain ⟨hfirst, hafter⟩ := h.declareAll s o.tables
  have hkept := (e.declareAll_frame s o.tables).trans htimeout
  rw [htimeout] at hfirst hafter
  unfold declareOptions at hdone
  dsimp only at hdone
  rw [hafter] at hdone
  split at hdone
  · next hmanifest =>
    -- Without a manifest the loads are those of the options alone.
    obtain ⟨he, -⟩ := Prod.mk.inj hdone
    obtain rfl := Except.ok.inj he
    rw [hmanifest]
    refine ⟨hkept, [], _, .unnamed, ?_⟩
    rwa [startupLoads, show Declaration.tagged (Declaration.declarations []) = [] from rfl,
      Load.each, List.append_nil]
  · next manifest hmanifest =>
    split at hdone
    · cases hdone
    · next ds read hread =>
      obtain ⟨he, -⟩ := Prod.mk.inj hdone
      obtain rfl := Except.ok.inj he
      obtain ⟨ls, hls, rfl⟩ := manifestDeclarations_ok hread
      rw [hkept] at hls
      have hall := (hfirst.declareAll read (Declaration.declarations ls)).1
      rw [hkept] at hall
      rw [hmanifest, declareAll_frame]
      exact ⟨hkept, ls, read, hls, hall⟩

theorem configured_frame {o : Options} (h : configured o = .ok e) :
    e.tables = .empty ∧ e.fetchTimeout = o.fetchTimeout := by
  obtain ⟨_, -, hrest⟩ := bind_eq_ok.mp h
  obtain ⟨refresher, -, he⟩ := bind_eq_ok.mp hrest
  obtain rfl := Except.ok.inj he
  exact ⟨rfl, rfl⟩

theorem rebuildAll_frame (e : Engine) (files : FileTree) :
    (e.rebuildAll files).2.tables = e.tables ∧
      (e.rebuildAll files).2.fetchTimeout = e.fetchTimeout := by
  have hfirst := e.wantedNetworks_frame files
  unfold rebuildAll
  split
  · next fault between hnetworks =>
    rw [hnetworks] at hfirst
    dsimp only at hfirst ⊢
    rw [hfirst]
    exact ⟨rfl, rfl⟩
  · next between hnetworks =>
    rw [hnetworks] at hfirst
    dsimp only at hfirst
    rw [between.wantedSites_frame, hfirst]
    exact ⟨rfl, rfl⟩

theorem hasTables_nil (h : e.tables = .empty) : e.HasTables [] := by
  intro kind tag
  rw [h, TableIndexes.get?_empty]
  rfl

theorem HasTables.mem_tags (h : e.HasTables loads)
    (htagged : loads.map Load.tagged = Declaration.tagged ds) (kind : TableKind) (tag : String) :
    tag ∈ (e.tables.ofKind kind).tags ↔ ∃ d ∈ ds, d.Gives kind tag := by
  rw [TableIndex.mem_tags, Declaration.exists_gives_iff htagged, ← Load.last_isSome,
    ← Option.isSome_iff_exists]
  rw [show (e.tables.ofKind kind).get? tag = e.tables.get? kind tag from rfl, h kind tag,
    Option.isSome_map]

/-- An engine from options has a table for every tag that they or the well-formed lines of their
manifest declare, and no other.  The tables are loaded one after the other, while nothing changes
around them but requests, and each is the table of the last load for its kind and tag, which is one
of the last declaration that gives it.  It is what this declaration makes for the tag with what the
load met, and it is without rules and never read exactly if the load failed. -/
theorem ofOptions_tables {o : Options} {s s' : Surroundings} {e : Engine}
    (h : ofOptions o s = (.ok e, s')) :
    ∃ blank ls read, configured o = .ok blank ∧
      let begun := blank.refreshGeo false s
      let declared := o.tables ++ Declaration.declarations ls
      let loads := startupLoads o ls begun read
      ManifestRead o.fetchTimeout
          (Load.after o.fetchTimeout begun (Declaration.tagged o.tables)) o.manifest ls read ∧
        (loads.map Load.tagged = Declaration.tagged declared ∧
          ∀ l ∈ loads, begun.OnlyRequests l.seen) ∧
        (∀ kind tag, tag ∈ (e.tables.ofKind kind).tags ↔ ∃ d ∈ declared, d.Gives kind tag) ∧
        ∀ kind tag t, e.tables.get? kind tag = some t →
          ∃ l, Load.last loads kind tag = some l ∧
            Declaration.IsLast declared kind tag l.declaration ∧
            t = (l.run o.fetchTimeout).2.1 ∧ l.declaration.Makes l.seen l.given t ∧
            (t.size = 0 ∧ t.wasRead = false ↔
              ∃ fault, (l.run o.fetchTimeout).1 = .error fault) := by
  unfold ofOptions at h
  split at h
  · cases h
  · next blank hblank =>
    dsimp only at h
    split at h
    · cases h
    · next built hbuilt =>
      obtain ⟨hempty, htimeout⟩ := configured_frame hblank
      obtain ⟨htables, hkept⟩ := blank.rebuildAll_frame (blank.refreshGeo false s).files
      rw [hbuilt] at htables hkept
      obtain ⟨hfetch, ls, read, hls, hhas⟩ := declareOptions_hasTables
        (hasTables_nil (htables.trans hempty)) (hkept.trans htimeout) h
      have htagged := map_startupLoads o ls (blank.refreshGeo false s) read
      refine ⟨blank, ls, read, hblank, hls, ⟨htagged, fun l hl => ?_⟩, hhas.mem_tags htagged, ?_⟩
      · -- The loads of the manifest come after the others and after it was read.
        rcases List.mem_append.mp hl with hl | hl
        · exact Load.onlyRequests_of_mem hl
        · exact ((Load.after_onlyRequests ..).trans hls.onlyRequests).trans
            (Load.onlyRequests_of_mem hl)
      · intro kind tag t ht
        rw [hhas kind tag, hfetch] at ht
        obtain ⟨l, hlast, rfl⟩ := Option.map_eq_some_iff.mp ht
        exact ⟨l, hlast, Declaration.isLast_of_last htagged hlast, rfl, l.makes_run _,
          l.failed_run _⟩

/-- A tag that is declared again in the manifest, in another spelling, when the URL of all tables
fails for once. -/
theorem ofOptions_tables_again :
    let o := { Options.standard with
      manifest := some "tables.txt"
      tables := [⟨.domain, ["ads", "cn", " "], "http://lists/all"⟩] }
    let manifest := "domain_table us,Ads http://lists/all\nbogus_table ads ads.txt\n"
    let given : String → Nat → Option Bytes := fun _ n => if n = 3 then none else some (utf8 "a.b")
    let s : Surroundings :=
      ⟨(FileTree.empty 0).put ["tables.txt"] (.file ⟨utf8 manifest, 0, true⟩), ⟨true, given, ∅⟩⟩
    ∃ e s' t ls read l, ofOptions o s = (.ok e, s') ∧ e.tables.get? .domain "ADS" = some t ∧
      Load.last (startupLoads o ls s read) .domain "ADS" = some l ∧
      Declaration.IsLast (o.tables ++ Declaration.declarations ls) .domain "ADS" l.declaration ∧
      (t.size = 0 ∧ t.wasRead = false) ∧ (∃ fault, (l.run o.fetchTimeout).1 = .error fault) ∧
      (e.tables.get? .domain "CN").map Table.size = some 1 := by
  intro o manifest given s
  have hfailed : ((ofOptions o s).1.toOption.bind fun e => e.tables.get? .domain "ADS").any
      (fun t => t.size == 0 && t.wasRead == false) = true := by decide +kernel
  have hother : ((ofOptions o s).1.toOption.bind fun e => e.tables.get? .domain "CN").map
      Table.size = some 1 := by decide +kernel
  have hbegun : ∀ blank, configured o = .ok blank → blank.refreshGeo false s = s := by
    rintro blank hblank
    obtain rfl := Except.ok.inj hblank
    rfl
  clear_value o s
  obtain ⟨t, ht, hempty⟩ := (Option.any_eq_true ..).mp hfailed
  rw [Bool.and_eq_true, beq_iff_eq, beq_iff_eq] at hempty
  obtain ⟨e, hsome, ht⟩ := Option.bind_eq_some_iff.mp ht
  have he : ofOptions o s = (.ok e, (ofOptions o s).2) := Prod.ext (eq_ok_of_toOption hsome) rfl
  obtain ⟨blank, ls, read, hblank, -, -, -, htables⟩ := ofOptions_tables he
  obtain ⟨l, hlast, hdeclared, -, -, hfault⟩ := htables .domain "ADS" t ht
  rw [hbegun blank hblank] at hlast
  rw [hsome, Option.bind_some] at hother
  exact ⟨e, (ofOptions o s).2, t, ls, read, l, he, ht, hlast, hdeclared, hempty,
    hfault.mp hempty, hother⟩

end Engine

end TagRules
