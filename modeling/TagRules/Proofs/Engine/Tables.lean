import TagRules.Engine.Reload
import TagRules.Proofs.Table.Loads

/-
  What operations do to the tables of an engine.

  Every table is filed under its own tag in the index of its kind (`IsFiled`), so that
  tables put in do not hide each other.  A pass over tables calls each of them once, and each
  call meets what the one before it left (`reloadEach_cons`).  It is the same with tables that
  are added: a `Load` is the first call of a table with what it met, and the loads of some
  tags are made one after the other (`Load.each`).
-/

namespace TagRules

/-! ## Tables by kind and tag -/

namespace TableIndex

theorem get?_insert (index : TableIndex) (t : Table) (tag : String) :
    (index.insert t).get? tag = if tag = t.tag then some t else index.get? tag := by
  simp only [get?, insert, Std.ExtTreeMap.getElem?_insert, Std.compare_eq_iff_eq,
    eq_comm (a := t.tag)]

theorem mem_toList {index : TableIndex} {t : Table} :
    t ∈ index.toList ↔ ∃ tag, index.get? tag = some t := by
  simp only [toList, get?, List.mem_map, Prod.exists, exists_eq_right,
    Std.ExtTreeMap.mem_toList_iff_getElem?_eq_some]

end TableIndex

namespace TableIndexes

theorem ofKind_withKind (x : TableIndexes) (kind : TableKind) (index : TableIndex)
    (k : TableKind) :
    (x.withKind kind index).ofKind k = if k = kind then index else x.ofKind k := by
  cases kind <;> cases k <;> rfl

theorem get?_insert (x : TableIndexes) (kind : TableKind) (t : Table) (k : TableKind)
    (tag : String) :
    (x.insert kind t).get? k tag = if k = kind ∧ tag = t.tag then some t else x.get? k tag := by
  unfold get? insert
  rw [ofKind_withKind]
  by_cases hk : k = kind
  · simp [hk, TableIndex.get?_insert]
  · simp [hk]

theorem ext_get? {x y : TableIndexes} (h : ∀ kind tag, x.get? kind tag = y.get? kind tag) :
    x = y := by
  have hindex : ∀ kind, (x.ofKind kind).byTag = (y.ofKind kind).byTag :=
    fun kind => Std.ExtTreeMap.ext_getElem? (h kind)
  obtain ⟨⟨_⟩, ⟨_⟩, ⟨_⟩, ⟨_⟩⟩ := x
  obtain ⟨⟨_⟩, ⟨_⟩, ⟨_⟩, ⟨_⟩⟩ := y
  obtain rfl := hindex .keyword
  obtain rfl := hindex .domain
  obtain rfl := hindex .network
  obtain rfl := hindex .client
  rfl

theorem insert_comm (x : TableIndexes) {kind k : TableKind} {t u : Table}
    (h : ¬(kind = k ∧ t.tag = u.tag)) :
    (x.insert kind t).insert k u = (x.insert k u).insert kind t := by
  apply ext_get?
  intro kind' tag
  simp only [get?_insert]
  by_cases hu : kind' = k ∧ tag = u.tag
  · have ht : ¬(kind' = kind ∧ tag = t.tag) :=
      fun ht => h ⟨ht.1.symm.trans hu.1, ht.2.symm.trans hu.2⟩
    rw [if_pos hu, if_neg ht, if_pos hu]
  · rw [if_neg hu, if_neg hu]

/-- Every table is filed under its own tag in the index of its kind. -/
def IsFiled (x : TableIndexes) : Prop :=
  ∀ kind tag t, x.get? kind tag = some t → t.kind = kind ∧ t.tag = tag

theorem get?_empty (kind : TableKind) (tag : String) : empty.get? kind tag = none := by
  cases kind <;> simp [get?, empty, ofKind, TableIndex.get?, TableIndex.empty]

theorem empty_isFiled : empty.IsFiled := by
  intro kind tag t h
  rw [get?_empty] at h
  cases h

theorem IsFiled.insert {x : TableIndexes} (h : x.IsFiled) {kind : TableKind} {t : Table}
    (hkind : t.kind = kind) : (x.insert kind t).IsFiled := by
  intro k tag u hu
  rw [get?_insert] at hu
  split at hu
  · next hnew =>
    obtain rfl := Option.some.inj hu
    exact ⟨hkind.trans hnew.1.symm, hnew.2.symm⟩
  · exact h k tag u hu

theorem IsFiled.mem_toList {x : TableIndexes} (h : x.IsFiled) {kind : TableKind} {t : Table} :
    t ∈ (x.ofKind kind).toList ↔ x.get? kind t.tag = some t := by
  rw [TableIndex.mem_toList]
  constructor
  · rintro ⟨tag, htag⟩
    rw [(h kind tag t htag).2]
    exact htag
  · exact fun ht => ⟨t.tag, ht⟩

end TableIndexes

namespace Engine

/-! ## A pass over tables -/

variable {e : Engine} {s : Surroundings}

theorem reloadIn_eq (e : Engine) (kind : TableKind) (t : Table) (s : Surroundings) :
    e.reloadIn kind t s =
      ((t.reload e.fetchTimeout s).1,
        { e with tables := e.tables.insert kind (t.reload e.fetchTimeout s).2.1 },
        t.source.ask e.fetchTimeout s) := by
  unfold reloadIn Table.reload
  rw [Table.refresh_eq]

theorem reloadEach_cons (e : Engine) (s : Surroundings) (tally : ReloadTally)
    (p : TableKind × Table) (rest : List (TableKind × Table)) :
    e.reloadEach s tally (p :: rest) =
      reloadEach { e with tables := e.tables.insert p.1 (p.2.reload e.fetchTimeout s).2.1 }
        (p.2.source.ask e.fetchTimeout s) (tally.record (p.2.reload e.fetchTimeout s).1) rest := by
  rw [reloadEach, reloadIn_eq]

theorem reloadEach_frame (e : Engine) (s : Surroundings) (tally : ReloadTally)
    (work : List (TableKind × Table)) :
    (e.reloadEach s tally work).2.1 =
      { e with tables := (e.reloadEach s tally work).2.1.tables } := by
  induction work generalizing e s tally with
  | nil => rfl
  | cons first rest ih =>
    rw [reloadEach_cons]
    exact ih _ _ _

/-- Whether two tables to be reloaded are filed in different places. -/
def Apart (p q : TableKind × Table) : Prop := ¬(p.1 = q.1 ∧ p.2.tag = q.2.tag)

theorem mem_kinds (request : KindSelection) (kind : TableKind) :
    kind ∈ request.kinds ↔ request.asks kind = true := by
  unfold KindSelection.kinds TableKind.all
  cases kind <;> simp

theorem mem_requested (h : e.tables.IsFiled) (request : KindSelection)
    {p : TableKind × Table} :
    p ∈ e.requested request ↔
      request.asks p.1 = true ∧ e.tables.get? p.1 p.2.tag = some p.2 := by
  unfold requested
  rw [List.mem_flatMap, ← h.mem_toList, ← mem_kinds]
  constructor
  · rintro ⟨kind, hkind, hp⟩
    obtain ⟨t, ht, rfl⟩ := List.mem_map.mp hp
    exact ⟨hkind, ht⟩
  · rintro ⟨hkind, ht⟩
    exact ⟨p.1, hkind, List.mem_map.mpr ⟨p.2, ht, rfl⟩⟩

theorem toList_pairwise (h : e.tables.IsFiled) (kind : TableKind) :
    (e.tables.ofKind kind).toList.Pairwise fun t u => t.tag ≠ u.tag := by
  have hkeys := (e.tables.ofKind kind).byTag.distinct_keys_toList
  unfold TableIndex.toList
  rw [List.pairwise_map]
  refine hkeys.imp_of_mem ?_
  intro x y hx hy hne hsame
  have hx : e.tables.get? kind x.1 = some x.2 :=
    Std.ExtTreeMap.mem_toList_iff_getElem?_eq_some.mp hx
  have hy : e.tables.get? kind y.1 = some y.2 :=
    Std.ExtTreeMap.mem_toList_iff_getElem?_eq_some.mp hy
  rw [(h kind x.1 x.2 hx).2, (h kind y.1 y.2 hy).2] at hsame
  exact hne (Std.compare_eq_iff_eq.mpr hsame)

theorem requested_pairwise (h : e.tables.IsFiled) (request : KindSelection) :
    (e.requested request).Pairwise Apart := by
  unfold requested
  rw [List.pairwise_flatMap]
  constructor
  · intro kind _
    rw [List.pairwise_map]
    exact (toList_pairwise h kind).imp fun hne hsame => hne hsame.2
  · have hkinds : request.kinds.Pairwise (· ≠ ·) :=
      List.Pairwise.filter _ (by decide : TableKind.all.Pairwise (· ≠ ·))
    refine hkinds.imp ?_
    intro k₁ k₂ hne p hp q hq hsame
    obtain ⟨t, -, rfl⟩ := List.mem_map.mp hp
    obtain ⟨u, -, rfl⟩ := List.mem_map.mp hq
    exact hne hsame.1

end Engine

/-! ## Adding tables -/

/-- The tags of a declaration that get a table. -/
def Declaration.givenTags (d : Declaration) : List String :=
  d.tags.filter fun tag => !Text.isAllBlank tag.toList

/-- The first call of the table that a declaration gives for a tag, and what it meets. -/
structure Load where
  declaration : Declaration
  given : String
  seen : Surroundings

namespace Load

/-- What comes of a load. -/
def run (l : Load) (timeout : Nat) : Except Error Outcome × Table × Surroundings :=
  (Table.ofText l.seen.files l.declaration.kind l.given l.declaration.source).load timeout l.seen

/-- The tag that is loaded, with its declaration. -/
def tagged (l : Load) : Declaration × String := (l.declaration, l.given)

/-- What is around after some loads. -/
def after (timeout : Nat) (s : Surroundings) (tags : List (Declaration × String)) :
    Surroundings :=
  tags.foldl (fun s (d, given) => (run ⟨d, given, s⟩ timeout).2.2) s

/-- The loads of the tables of some tags, each of which meets what the one before it left. -/
def each (timeout : Nat) (s : Surroundings) : List (Declaration × String) → List Load
  | [] => []
  | (d, given) :: rest => ⟨d, given, s⟩ :: each timeout (run ⟨d, given, s⟩ timeout).2.2 rest

theorem each_cons (timeout : Nat) (s : Surroundings) (d : Declaration) (given : String)
    (rest : List (Declaration × String)) :
    each timeout s ((d, given) :: rest) =
      ⟨d, given, s⟩ :: each timeout (run ⟨d, given, s⟩ timeout).2.2 rest := rfl

theorem after_cons (timeout : Nat) (s : Surroundings) (d : Declaration) (given : String)
    (rest : List (Declaration × String)) :
    after timeout s ((d, given) :: rest) = after timeout (run ⟨d, given, s⟩ timeout).2.2 rest :=
  List.foldl_cons ..

theorem map_each (timeout : Nat) (s : Surroundings) (tags : List (Declaration × String)) :
    (each timeout s tags).map tagged = tags := by
  induction tags generalizing s with
  | nil => rfl
  | cons first rest ih => rw [each_cons, List.map_cons, ih, tagged]

theorem each_append (timeout : Nat) (s : Surroundings) (tags more : List (Declaration × String)) :
    each timeout s (tags ++ more) =
      each timeout s tags ++ each timeout (after timeout s tags) more := by
  induction tags generalizing s with
  | nil => rfl
  | cons first rest ih =>
    rw [List.cons_append, each_cons, each_cons, after_cons, ih, List.cons_append]

theorem after_append (timeout : Nat) (s : Surroundings)
    (tags more : List (Declaration × String)) :
    after timeout s (tags ++ more) = after timeout (after timeout s tags) more :=
  List.foldl_append

theorem run_frame (l : Load) (timeout : Nat) :
    (l.run timeout).2.1.kind = l.declaration.kind ∧
      (l.run timeout).2.1.tag = Tag.normalize l.given := by
  unfold run Table.ofText Table.load
  obtain ⟨hkind, htag⟩ := Table.create_frame l.declaration.kind l.given
    (.ofText l.seen.files l.given l.declaration.source)
  obtain ⟨hkind', htag', -⟩ := (Table.create l.declaration.kind l.given
    (.ofText l.seen.files l.given l.declaration.source)).refresh_frame true timeout l.seen
  exact ⟨hkind'.trans hkind, htag'.trans htag⟩

theorem run_isCurrent (l : Load) (timeout : Nat) :
    (l.run timeout).2.1.IsCurrent [⟨true, l.seen, l.seen.files, (l.run timeout).1⟩] := by
  unfold run Table.ofText Table.load
  exact (Table.create_isCurrent ..).refresh true timeout l.seen

theorem run_onlyRequests (l : Load) (timeout : Nat) : l.seen.OnlyRequests (l.run timeout).2.2 := by
  unfold run Table.load
  exact Table.refresh_onlyRequests _ true timeout l.seen

theorem after_onlyRequests (timeout : Nat) (s : Surroundings)
    (tags : List (Declaration × String)) : s.OnlyRequests (after timeout s tags) := by
  induction tags generalizing s with
  | nil => exact .refl s
  | cons first rest ih =>
    rw [after_cons]
    exact (run_onlyRequests ⟨first.1, first.2, s⟩ timeout).trans (ih _)

/-- Loads meet nothing new but requests. -/
theorem onlyRequests_of_mem {timeout : Nat} {s : Surroundings}
    {tags : List (Declaration × String)} {l : Load} (h : l ∈ each timeout s tags) :
    s.OnlyRequests l.seen := by
  induction tags generalizing s with
  | nil => cases h
  | cons first rest ih =>
    rw [each_cons] at h
    rcases List.mem_cons.mp h with rfl | hlater
    · exact .refl s
    · exact (run_onlyRequests ⟨first.1, first.2, s⟩ timeout).trans (ih hlater)

end Load

namespace Engine

theorem addTag_eq (e : Engine) (d : Declaration) (given : String) (s : Surroundings) :
    e.addTag d.kind given d.source s =
      let loaded := Load.run ⟨d, given, s⟩ e.fetchTimeout
      (loaded.2.1, { e with tables := e.tables.insert d.kind loaded.2.1 }, loaded.2.2) := by
  unfold addTag Load.run
  rcases (Table.ofText s.files d.kind given d.source).load e.fetchTimeout s with ⟨result, t, s'⟩
  rfl

theorem addTags_cons (e : Engine) (d : Declaration) (s : Surroundings) (given : String)
    (rest : List String) :
    e.addTags d.kind d.source s (given :: rest) =
      let loaded := Load.run ⟨d, given, s⟩ e.fetchTimeout
      let more := addTags { e with tables := e.tables.insert d.kind loaded.2.1 } d.kind d.source
        loaded.2.2 rest
      (loaded.2.1 :: more.1, more.2) := by
  rw [addTags, addTag_eq]

theorem addTags_frame (e : Engine) (d : Declaration) (s : Surroundings) (tags : List String) :
    (e.addTags d.kind d.source s tags).2.1 =
      { e with tables := (e.addTags d.kind d.source s tags).2.1.tables } := by
  induction tags generalizing e s with
  | nil => rfl
  | cons tag rest ih =>
    rw [addTags_cons]
    exact ih _ _

theorem declare_frame (e : Engine) (d : Declaration) (s : Surroundings) :
    (e.declare d s).2.1 = { e with tables := (e.declare d s).2.1.tables } :=
  e.addTags_frame d s d.givenTags

/-! ## A call of one table -/

def callTable (e : Engine) (kind : TableKind) (tag : String) (forced : Bool) (s : Surroundings) :
    Engine × Surroundings :=
  match e.table? kind tag with
  | none => (e, s)
  | some t =>
    let (_, t, s) := t.refresh forced e.fetchTimeout s
    ({ e with tables := e.tables.insert kind t }, s)

theorem callTable_frame (e : Engine) (kind : TableKind) (tag : String) (forced : Bool)
    (s : Surroundings) :
    (e.callTable kind tag forced s).1 =
      { e with tables := (e.callTable kind tag forced s).1.tables } := by
  unfold callTable
  cases e.table? kind tag <;> rfl

end Engine

end TagRules
