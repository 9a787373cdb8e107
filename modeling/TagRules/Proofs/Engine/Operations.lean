import TagRules.Engine.Query
import TagRules.Engine.Startup
import TagRules.Proofs.Engine.GeoSets
import TagRules.Proofs.Engine.Tables
import TagRules.Proofs.Surroundings.Places

/-
  An engine over time, and what it owes to its past.

  An `Operation` is anything that can be done with an engine, or that can happen around it: files
  and bodies change at will, tables are declared, put in with a past of their own, called
  and reloaded, geographic sets are rebuilt, questions are asked.  A `Course` takes
  operations in order and keeps a `History` beside the engine: the calls of every table
  that is there, with what each saw and returned, and the list that the catalog last
  returned for every code.  The history is written from what the operations return, and
  the engine never looks at it.

  `agrees_take` says that both belong together after any operations: every table is filed
  under its tag and kind and has the rules of its current load, and the networks of every
  code are those of the list last returned for it.  An engine that options describe is
  reached by operations too (`ofOptions_reached`).
-/

namespace TagRules.Engine

open Net

/-! ## Operations -/

inductive Setting where
  | catalog (catalog : Catalog)
  | refresher (refresher : Option Geo.Refresher)
  | sink (counters : Counters)
  | cache (capacity ttl : Nat)
  | timeout (timeout : Nat)
  | geoCodes (ipTags siteTags : List String)

def set (e : Engine) : Setting → Engine
  | .catalog catalog => { e with catalog }
  | .refresher refresher => { e with refresher }
  | .sink counters => { e with sink := some counters }
  | .cache capacity ttl => { e with cache := .create capacity ttl }
  | .timeout timeout => { e with fetchTimeout := timeout }
  | .geoCodes ipTags siteTags => e.withGeoCodes ipTags siteTags

inductive Query where
  | geoNetwork (tag : String) (n : Network)
  | geoAddress (tag : String) (a : Address)
  | tableNet (tag : String) (n : Network)
  | tableNetText (tag text : String)
  | net (tag : String) (n : Network)
  | netText (tag text : String)
  | site (kind : MatchKind) (tag name : String)
  | keyword (tag name : String)
  | client (tag client : String)
  | name (now : Nat) (tag name : String)
  | tags (now : Nat) (tags : List String) (name : String) (reverse : Bool)

def afterQuery (e : Engine) : Query → Engine
  | .geoNetwork tag n => (e.matchGeoNetwork tag n).2
  | .geoAddress tag a => (e.matchGeoAddress tag a).2
  | .tableNet tag n => (e.matchTableNet tag n).2
  | .tableNetText tag text => (e.matchTableNetText tag text).2
  | .net tag n => (e.matchNet tag n).2
  | .netText tag text => (e.matchNetText tag text).2
  | .site kind tag name => (e.matchSite kind tag name).2
  | .keyword tag name => (e.matchKeyword tag name).2
  | .client tag client => (e.resolveClient tag client).2
  | .name now tag name => (e.matchName now tag name).2
  | .tags now tags name reverse => (e.matchTags now tags name reverse).2

/-- What is done with an engine, or happens around it.  A table that is put in was made and called
elsewhere, and goes into the index of its own kind. -/
inductive Operation where
  | outside (s : Surroundings)
  | set (setting : Setting)
  | declare (d : Declaration)
  | put (kind : TableKind) (tag : String) (source : Source) (steps : List Table.Step)
  | call (kind : TableKind) (tag : String) (forced : Bool)
  | reloadTables (request : KindSelection)
  | rebuildNetworks
  | rebuildSites
  | rebuildGeo (force : Bool)
  | ask (q : Query)
  | countMetric (name : String)
  | resetCounters (cls : CountClass)
  | clearCache

/-! ## History -/

/-- The calls of every table that is there, and the list last returned for every code. -/
structure History where
  calls : TableKind → String → List Table.Call
  lists : String → Option (List Network)

namespace History

def empty : History := ⟨fun _ _ => [], fun _ => none⟩

/-- A table with these calls takes the place of a kind and a tag. -/
def file (h : History) (kind : TableKind) (tag : String) (calls : List Table.Call) : History :=
  { h with calls := fun k t => if k = kind ∧ t = tag then calls else h.calls k t }

/-- A table of an index was called while the files stayed as they were. -/
def called (h : History) (kind : TableKind) (t : Table) (forced : Bool) (timeout : Nat)
    (s : Surroundings) : History :=
  h.file kind t.tag
    (h.calls kind t.tag ++ [(Table.Step.amidNothing forced timeout s).call t])

/-- Tables were reloaded one after the other. -/
def reloaded (h : History) (timeout : Nat) (s : Surroundings) :
    List (TableKind × Table) → History
  | [] => h
  | (kind, t) :: rest =>
    (h.called kind t false timeout s).reloaded timeout (t.source.ask timeout s) rest

/-- Tables were made and loaded. -/
def loaded (h : History) (timeout : Nat) (loads : List Load) : History :=
  loads.foldl
    (fun h l => h.file l.declaration.kind (Tag.normalize l.given)
      [⟨true, l.seen, l.seen.files, (l.run timeout).1⟩])
    h

theorem loaded_cons (h : History) (timeout : Nat) (l : Load) (rest : List Load) :
    h.loaded timeout (l :: rest) =
      (h.file l.declaration.kind (Tag.normalize l.given)
        [⟨true, l.seen, l.seen.files, (l.run timeout).1⟩]).loaded timeout rest :=
  List.foldl_cons ..

/-- The catalog returned lists for some codes, or failed. -/
def listed (h : History) (result : Except Error Geo.Networks) : History :=
  { h with lists := fun code => (Engine.listed result code).or (h.lists code) }

end History

/-! ## Courses -/

/-- An engine, what is around it, and its history. -/
structure Course where
  engine : Engine
  surroundings : Surroundings
  history : History

namespace Course

def start (s : Surroundings) : Course := ⟨.empty, s, .empty⟩

/-- What an operation leads to. -/
def step (c : Course) (op : Operation) : Course :=
  let e := c.engine
  let s := c.surroundings
  let h := c.history
  match op with
  | .outside s => ⟨e, s, h⟩
  | .set setting => ⟨e.set setting, s, h⟩
  | .declare d =>
    ⟨(e.declare d s).2.1, (e.declare d s).2.2,
      h.loaded e.fetchTimeout
        (Load.each e.fetchTimeout s (d.givenTags.map fun given => (d, given)))⟩
  | .put kind tag source steps =>
    let r := (Table.Run.start (Table.create kind tag source)).take steps
    ⟨e.putTable r.table, s, h.file r.table.kind r.table.tag r.calls⟩
  | .call kind tag forced =>
    ⟨(e.callTable kind tag forced s).1, (e.callTable kind tag forced s).2,
      match e.table? kind tag with
      | some t => h.called kind t forced e.fetchTimeout s
      | none => h⟩
  | .reloadTables request =>
    ⟨(e.reloadTables request s).2.1, (e.reloadTables request s).2.2,
      h.reloaded e.fetchTimeout s (e.requested request)⟩
  | .rebuildNetworks =>
    ⟨(e.rebuildNetworks s.files).2, s, h.listed (e.catalog.networksFor s.files e.geoIpTags)⟩
  | .rebuildSites => ⟨(e.rebuildSites s.files).2, s, h⟩
  | .rebuildGeo force =>
    ⟨(e.rebuildGeo force s).2.1, (e.rebuildGeo force s).2.2,
      if e.geoIpTags.isEmpty then h
      else h.listed (e.catalog.networksFor (e.refreshGeo force s).files e.geoIpTags)⟩
  | .ask q => ⟨e.afterQuery q, s, h⟩
  | .countMetric name => ⟨e.countMetric name, s, h⟩
  | .resetCounters cls => ⟨{ e with counters := e.counters.reset cls }, s, h⟩
  | .clearCache => ⟨{ e with cache := e.cache.clear }, s, h⟩

def take (c : Course) (ops : List Operation) : Course := ops.foldl step c

end Course

/-- An operation that may bring new rules, or happens around the engine. -/
def Operation.IsLoading : Operation → Prop
  | .outside _ | .declare _ | .put .. | .call .. | .reloadTables _ => True
  | .rebuildNetworks | .rebuildSites | .rebuildGeo _ => True
  | .set _ | .ask _ | .countMetric _ | .resetCounters _ | .clearCache => False

theorem Course.step_frame (c : Course) {op : Operation} (h : op.IsLoading) :
    (c.step op).engine =
      { c.engine with
        tables := (c.step op).engine.tables
        geoIp := (c.step op).engine.geoIp
        geoSite := (c.step op).engine.geoSite } := by
  cases op with
  | outside | put => rfl
  | declare =>
    dsimp only [step]
    rw [declare_frame]
  | call =>
    dsimp only [step]
    rw [callTable_frame]
  | reloadTables =>
    dsimp only [step, Engine.reloadTables]
    rw [reloadEach_frame]
  | rebuildNetworks =>
    dsimp only [step]
    rw [rebuildNetworks_frame]
  | rebuildSites =>
    dsimp only [step]
    rw [rebuildSites_frame]
  | rebuildGeo =>
    dsimp only [step]
    rw [rebuildGeo_frame]
  | set | ask | countMetric | resetCounters | clearCache => exact h.elim

/-! ## Questions leave the rules alone -/

/-- Nothing changed but what is remembered and counted. -/
def SameRules (e e' : Engine) : Prop :=
  ∃ cache counters sink, e' = { e with cache, counters, sink }

namespace SameRules

theorem refl (e : Engine) : SameRules e e := ⟨_, _, _, rfl⟩

theorem trans {e e' e'' : Engine} (h : SameRules e e') (h' : SameRules e' e'') :
    SameRules e e'' := by
  obtain ⟨_, _, _, rfl⟩ := h
  obtain ⟨cache, counters, sink, rfl⟩ := h'
  exact ⟨cache, counters, sink, rfl⟩

theorem count (e : Engine) (cls : CountClass) (name : String) : SameRules e (e.count cls name) :=
  ⟨_, _, _, rfl⟩

theorem countIf (e : Engine) (hit : Bool) (cls : CountClass) (name : String) :
    SameRules e (e.countIf hit cls name).2 := by
  cases hit
  · exact .refl e
  · exact .count e cls name

theorem forNetText {query : Engine → String → Network → Bool × Engine} (e : Engine) (tag : String)
    (h : ∀ n, SameRules e (query e tag n).2) (text : String) :
    SameRules e (e.forNetText query tag text).2 := by
  unfold Engine.forNetText
  split
  · exact h _
  · exact .refl e

theorem resolveClient (e : Engine) (tag client : String) :
    SameRules e (e.resolveClient tag client).2 := by
  unfold Engine.resolveClient
  split
  · exact .count e _ _
  · exact .refl e

theorem matchCanonical (e : Engine) (now : Nat) (tag name : String) :
    SameRules e (e.matchCanonical now tag name).2 := by
  have hremembered : SameRules e (e.remembered now tag name).2 := ⟨_, _, _, rfl⟩
  unfold Engine.matchCanonical
  split
  · next cls e' hfound =>
    rw [hfound] at hremembered
    exact hremembered.trans (.count e' cls tag)
  · next e' hfound =>
    rw [hfound] at hremembered
    split
    · next cls _ =>
      have hremember : SameRules e' (e'.remember now tag name cls) := ⟨_, _, _, rfl⟩
      exact (hremembered.trans hremember).trans (.count _ cls tag)
    · exact hremembered

theorem matchFirst (e : Engine) (now : Nat) (name : String) (reverse : Bool)
    (tags : List String) : SameRules e (e.matchFirst now name reverse tags).2 := by
  induction tags generalizing e with
  | nil => exact .refl e
  | cons tag rest ih =>
    have hfirst := matchCanonical e now (Tag.normalize tag) name
    unfold Engine.matchFirst
    dsimp only
    split
    · next e' hfound =>
      rw [hfound] at hfirst
      exact hfirst
    · next e' hfound =>
      rw [hfound] at hfirst
      refine (hfirst.trans ?_).trans (ih _)
      split
      · exact .count e' _ _
      · exact .refl e'

theorem afterQuery (e : Engine) (q : Query) : SameRules e (e.afterQuery q) := by
  cases q with
  | geoNetwork tag n => exact .countIf e _ _ _
  | geoAddress tag a => exact .countIf e _ _ _
  | tableNet tag n => exact .countIf e _ _ _
  | tableNetText tag text => exact .forNetText e tag (fun n => .countIf e _ _ _) text
  | net tag n => exact .countIf e _ _ _
  | netText tag text => exact .forNetText e tag (fun n => .countIf e _ _ _) text
  | site kind tag name => exact .countIf e _ _ _
  | keyword tag name => exact .countIf e _ _ _
  | client tag client => exact .resolveClient e tag client
  | name now tag name => exact .matchCanonical e now _ name
  | tags now tags name reverse =>
    unfold Engine.afterQuery Engine.matchTags
    dsimp only
    split
    · exact .refl e
    · exact .matchFirst e now name reverse tags

end SameRules

/-! ## What an engine owes to its past -/

/-- Every table is filed, and has the rules of the current load among its calls. -/
structure TablesAgree (x : TableIndexes) (calls : TableKind → String → List Table.Call) :
    Prop where
  filed : x.IsFiled
  current : ∀ kind tag t, x.get? kind tag = some t → t.IsCurrent (calls kind tag)

/-- The networks of every code are those of the list last returned for it. -/
def ListsAgree (sets : CodedSets NetworkRules) (lists : String → Option (List Network)) : Prop :=
  ∀ code, sets.get? code = (lists code).map NetworkRules.ofList

namespace TablesAgree

variable {e : Engine} {s : Surroundings} {h : History}

theorem insert (hx : TablesAgree e.tables h.calls) {kind : TableKind} {t : Table}
    {calls : List Table.Call} (hkind : t.kind = kind) (hcurrent : t.IsCurrent calls) :
    TablesAgree (e.tables.insert kind t) (h.file kind t.tag calls).calls where
  filed := hx.filed.insert hkind
  current k tag u hu := by
    rw [TableIndexes.get?_insert] at hu
    dsimp only [History.file]
    split at hu
    · next hnew =>
      obtain rfl := Option.some.inj hu
      rw [if_pos hnew]
      exact hcurrent
    · next hold =>
      rw [if_neg hold]
      exact hx.current k tag u hu

/-- A table that is called stays where it is filed, and so does the record of its calls. -/
theorem called (hx : TablesAgree e.tables h.calls) {kind : TableKind} {t : Table}
    (ht : e.tables.get? kind t.tag = some t) (forced : Bool) (timeout : Nat) (s : Surroundings) :
    TablesAgree (e.tables.insert kind (t.refresh forced timeout s).2.1)
      (h.called kind t forced timeout s).calls := by
  obtain ⟨hkind, htag, -⟩ := t.refresh_frame forced timeout s
  have hfiled := hx.insert (hkind.trans (hx.filed kind t.tag t ht).1)
    ((hx.current kind t.tag t ht).refresh forced timeout s)
  rw [htag] at hfiled
  exact hfiled

/-- By induction on the tables, which are filed in different places, so that those still to come
are where they were. -/
theorem reloaded (hx : TablesAgree e.tables h.calls) {work : List (TableKind × Table)}
    (hapart : work.Pairwise Apart)
    (hthere : ∀ p ∈ work, e.tables.get? p.1 p.2.tag = some p.2) (s : Surroundings)
    (tally : ReloadTally) :
    TablesAgree (e.reloadEach s tally work).2.1.tables
      (h.reloaded e.fetchTimeout s work).calls := by
  induction work generalizing e s tally h with
  | nil => exact hx
  | cons first rest ih =>
    obtain ⟨hfirst, hrest⟩ := List.pairwise_cons.mp hapart
    have hcalled := hx.called (hthere first List.mem_cons_self) false e.fetchTimeout s
    rw [reloadEach_cons]
    refine ih hcalled hrest (fun p hp => ?_) _ _
    have hne : ¬(p.1 = first.1 ∧ p.2.tag = (first.2.reload e.fetchTimeout s).2.1.tag) := by
      rw [Table.reload, (first.2.refresh_frame false e.fetchTimeout s).2.1]
      exact fun hsame => hfirst p hp ⟨hsame.1.symm, hsame.2.symm⟩
    rw [TableIndexes.get?_insert, if_neg hne]
    exact hthere p (List.mem_cons_of_mem _ hp)

/-- By induction on the tags: every table is new, and its record is that of its load. -/
theorem loaded (hx : TablesAgree e.tables h.calls) (d : Declaration) (s : Surroundings)
    (tags : List String) :
    TablesAgree (e.addTags d.kind d.source s tags).2.1.tables
      (h.loaded e.fetchTimeout
        (Load.each e.fetchTimeout s (tags.map fun given => (d, given)))).calls := by
  induction tags generalizing e s h with
  | nil => exact hx
  | cons given rest ih =>
    obtain ⟨hkind, htag⟩ := Load.run_frame ⟨d, given, s⟩ e.fetchTimeout
    have hfiled := hx.insert hkind (Load.run_isCurrent ⟨d, given, s⟩ e.fetchTimeout)
    rw [htag] at hfiled
    rw [addTags_cons, List.map_cons, Load.each_cons, History.loaded_cons]
    exact ih (e := { e with tables := _ }) hfiled _

end TablesAgree

namespace Course

/-- The engine of a course is what its history says. -/
structure Agrees (c : Course) : Prop where
  tables : TablesAgree c.engine.tables c.history.calls
  lists : ListsAgree c.engine.geoIp c.history.lists

theorem agrees_start (s : Surroundings) : (start s).Agrees where
  tables := ⟨TableIndexes.empty_isFiled, by
    intro kind tag t ht
    rw [show (start s).engine.tables = TableIndexes.empty from rfl, TableIndexes.get?_empty] at ht
    cases ht⟩
  lists code := by simp [start, Engine.empty, CodedSets.empty, CodedSets.get?, History.empty]

theorem lists_reloaded (h : History) (timeout : Nat) (s : Surroundings)
    (work : List (TableKind × Table)) : (h.reloaded timeout s work).lists = h.lists := by
  induction work generalizing h s with
  | nil => rfl
  | cons first rest ih => exact ih _ _

theorem lists_loaded (h : History) (timeout : Nat) (loads : List Load) :
    (h.loaded timeout loads).lists = h.lists := by
  induction loads generalizing h with
  | nil => rfl
  | cons first rest ih => rw [History.loaded_cons, ih]; rfl

theorem listsAgree_rebuild {e : Engine} {h : History} (hlists : ListsAgree e.geoIp h.lists)
    (files : FileTree) :
    ListsAgree (e.rebuildNetworks files).2.geoIp
      (h.listed (e.catalog.networksFor files e.geoIpTags)).lists := by
  intro code
  dsimp only [History.listed]
  rw [rebuildNetworks_get?, hlists code]
  cases Engine.listed (e.catalog.networksFor files e.geoIpTags) code <;> rfl

theorem Agrees.step {c : Course} (hc : c.Agrees) (op : Operation) : (c.step op).Agrees := by
  obtain ⟨htables, hlists⟩ := hc
  cases op with
  | outside s => exact ⟨htables, hlists⟩
  | set setting => cases setting <;> exact ⟨htables, hlists⟩
  | declare d =>
    refine ⟨htables.loaded d c.surroundings d.givenTags, ?_⟩
    dsimp only [Course.step]
    rw [declare_frame, lists_loaded]
    exact hlists
  | put kind tag source steps =>
    -- The past of the table is its own run, which kept its rules current.
    have hcurrent := Table.Run.isCurrent_take (r := .start (Table.create kind tag source))
      (Table.create_isCurrent kind tag source) steps
    exact ⟨htables.insert rfl hcurrent, hlists⟩
  | call kind tag forced =>
    dsimp only [Course.step, callTable, table?]
    cases ht : c.engine.tables.get? kind (Tag.normalize tag) with
    | none => exact ⟨htables, hlists⟩
    | some t =>
      obtain ⟨-, htag⟩ := htables.filed kind _ t ht
      rw [← htag] at ht
      exact ⟨htables.called ht forced _ _, hlists⟩
  | reloadTables request =>
    refine ⟨htables.reloaded (requested_pairwise htables.filed request)
      (fun p hp => ((mem_requested htables.filed request).mp hp).2) _ _, ?_⟩
    dsimp only [Course.step, Engine.reloadTables]
    rw [reloadEach_frame, lists_reloaded]
    exact hlists
  | rebuildNetworks =>
    refine ⟨?_, listsAgree_rebuild hlists c.surroundings.files⟩
    dsimp only [Course.step]
    rw [rebuildNetworks_frame]
    exact htables
  | rebuildSites =>
    dsimp only [Course.step]
    rw [rebuildSites_frame]
    exact ⟨htables, hlists⟩
  | rebuildGeo force =>
    constructor
    · dsimp only [Course.step]
      rw [rebuildGeo_frame]
      split <;> exact htables
    · intro code
      dsimp only [Course.step]
      rw [rebuildGeo_get?]
      split
      · exact hlists code
      · exact listsAgree_rebuild hlists _ code
  | ask q =>
    obtain ⟨cache, counters, sink, hasked⟩ := SameRules.afterQuery c.engine q
    dsimp only [Course.step]
    rw [hasked]
    exact ⟨htables, hlists⟩
  | countMetric name => exact ⟨htables, hlists⟩
  | resetCounters cls => exact ⟨htables, hlists⟩
  | clearCache => exact ⟨htables, hlists⟩

theorem Agrees.take {c : Course} (hc : c.Agrees) (ops : List Operation) : (c.take ops).Agrees := by
  induction ops generalizing c with
  | nil => exact hc
  | cons op rest ih => exact ih (hc.step op)

/-- After any operations the engine is what its history says. -/
theorem agrees_take (s : Surroundings) (ops : List Operation) : ((start s).take ops).Agrees :=
  (agrees_start s).take ops

end Course

/-! ## Engines from options -/

/-- Operations lead from one engine to another, whatever happened before. -/
def Leads (e : Engine) (s : Surroundings) (e' : Engine) (s' : Surroundings) : Prop :=
  ∀ h, ∃ ops h', (Course.mk e s h).take ops = ⟨e', s', h'⟩

namespace Leads

variable {e e' e'' : Engine} {s s' s'' : Surroundings}

theorem refl (e : Engine) (s : Surroundings) : Leads e s e s := fun h => ⟨[], h, rfl⟩

theorem trans (h : Leads e s e' s') (h' : Leads e' s' e'' s'') : Leads e s e'' s'' := by
  intro before
  obtain ⟨ops, between, hops⟩ := h before
  obtain ⟨more, after, hmore⟩ := h' between
  refine ⟨ops ++ more, after, ?_⟩
  rw [Course.take, List.foldl_append, ← hmore, ← hops]
  rfl

theorem outside (e : Engine) (s s' : Surroundings) : Leads e s e s' :=
  fun h => ⟨[.outside s'], h, rfl⟩

theorem declare (e : Engine) (s : Surroundings) (d : Declaration) :
    Leads e s (e.declare d s).2.1 (e.declare d s).2.2 :=
  fun _ => ⟨[.declare d], _, rfl⟩

theorem declareAll (e : Engine) (s : Surroundings) (ds : List Declaration) :
    Leads e s (e.declareAll s ds).1 (e.declareAll s ds).2 := by
  induction ds generalizing e s with
  | nil => exact .refl e s
  | cons d rest ih =>
    rw [Engine.declareAll]
    exact (declare e s d).trans (ih _ _)

theorem rebuildWanted_networks (e : Engine) (s : Surroundings) :
    Leads e s (e.rebuildWanted e.geoIpTags rebuildNetworks s.files).2 s := by
  rw [Engine.rebuildWanted_networks]
  split
  · exact .refl e s
  · exact fun _ => ⟨[.rebuildNetworks], _, rfl⟩

theorem rebuildWanted_sites (e : Engine) (s : Surroundings) :
    Leads e s (e.rebuildWanted e.geoSiteTags rebuildSites s.files).2 s := by
  rw [Engine.rebuildWanted_sites]
  split
  · exact .refl e s
  · exact fun _ => ⟨[.rebuildSites], _, rfl⟩

theorem rebuildAll (h : e.rebuildAll s.files = (.ok (), e')) : Leads e s e' s := by
  have hfirst := rebuildWanted_networks e s
  unfold Engine.rebuildAll at h
  split at h
  · cases h
  · next between hip =>
    rw [hip] at hfirst
    have hsecond := rebuildWanted_sites between s
    rw [h] at hsecond
    exact hfirst.trans hsecond

theorem configured {o : Options} (h : Engine.configured o = .ok e) : Leads .empty s e s := by
  obtain ⟨_, -, hrest⟩ := bind_eq_ok.mp h
  obtain ⟨refresher, -, he⟩ := bind_eq_ok.mp hrest
  obtain rfl := Except.ok.inj he
  exact fun before => ⟨[.set (.catalog (.files o.geoIpPath o.geoSitePath)),
    .set (.cache o.cacheCapacity o.cacheTtl), .set (.timeout o.fetchTimeout),
    .set (.refresher (if refresher.hasTargets then some refresher else none)),
    .set (.geoCodes o.geoIpTags o.geoSiteTags)], before, rfl⟩

theorem declareOptions {o : Options} (h : e.declareOptions o s = (.ok e', s')) :
    Leads e s e' s' := by
  have htables := declareAll e s o.tables
  unfold Engine.declareOptions at h
  dsimp only at h
  split at h
  · obtain ⟨he, rfl⟩ := Prod.mk.inj h
    obtain rfl := Except.ok.inj he
    exact htables
  · split at h
    · cases h
    · next declarations after hmanifest =>
      obtain ⟨he, rfl⟩ := Prod.mk.inj h
      obtain rfl := Except.ok.inj he
      exact (htables.trans (.outside _ _ after)).trans (declareAll _ after declarations)

end Leads

/-- An engine that options describe is reached by operations. -/
theorem ofOptions_reached {o : Options} {s s' : Surroundings} {e : Engine}
    (h : ofOptions o s = (.ok e, s')) :
    ∃ ops, ((Course.start s).take ops).engine = e ∧
      ((Course.start s).take ops).surroundings = s' := by
  unfold ofOptions at h
  split at h
  · cases h
  · next blank hblank =>
    dsimp only at h
    split at h
    · cases h
    · next built hbuilt =>
      have hleads : Leads .empty s e s' :=
        (((Leads.configured hblank).trans (.outside blank s _)).trans
          (Leads.rebuildAll hbuilt)).trans (Leads.declareOptions h)
      obtain ⟨ops, after, hops⟩ := hleads .empty
      refine ⟨ops, ?_⟩
      rw [Course.start, hops]
      exact ⟨rfl, rfl⟩

end TagRules.Engine
