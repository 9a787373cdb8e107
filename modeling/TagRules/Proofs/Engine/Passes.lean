import Mathlib.Algebra.GroupWithZero.Nat
import Mathlib.Data.List.Pairwise
import TagRules.Proofs.Engine.Operations

/-
  A pass over tables, in whatever order.

  A pass reloads the tables of some kinds, each of them once.  While every URL goes on giving
  the same, the call of one table leaves the others what they find, puts its table elsewhere,
  and what both count adds up, so that two tables that are filed in different places can be
  reloaded in either order.  No two tables of a request are filed in one place, and so the
  tables can be reloaded in any order (`reloadEach_perm`).

  What a pass counts and what it asks for is the sum over its tables, each called on its
  own (`reloadEach_tally`, `reloadEach_asked`).  `reloadTables_each_once` puts this
  together for an engine after any operations.
-/

namespace TagRules

/-! ## Requests -/

namespace Source

theorem ask_comm (source other : Source) (timeout : Nat) (s : Surroundings) :
    other.ask timeout (source.ask timeout s) = source.ask timeout (other.ask timeout s) := by
  cases source with
  | inline text => rfl
  | file path => rfl
  | url u =>
    cases other with
    | inline text => rfl
    | file path => rfl
    | url v => exact congrArg (Surroundings.mk s.files) (s.remote.count_comm u v timeout)

theorem isOnline_ask (source : Source) (timeout : Nat) (s : Surroundings) :
    (source.ask timeout s).remote.isOnline = s.remote.isOnline :=
  (source.ask_onlyRequests timeout s).later.isOnline_eq

theorem asked_ask (source : Source) (timeout : Nat) (s : Surroundings) (url : String) :
    (source.ask timeout s).remote.asked url =
      s.remote.asked url + if s.remote.isOnline = true ∧ source = .url url then 1 else 0 := by
  cases source with
  | inline text => simp [ask]
  | file path => simp [ask]
  | url u => simpa [ask] using s.remote.asked_count u timeout url

end Source

/-! ## What is counted -/

namespace ReloadTally

theorem record_comm (tally : ReloadTally) (result other : Except Error Outcome) :
    (tally.record result).record other = (tally.record other).record result := by
  rcases result with _ | _ | _ | _ <;> rcases other with _ | _ | _ | _ <;> rfl

theorem total_record (tally : ReloadTally) (result : Except Error Outcome) :
    (tally.record result).total = tally.total + 1 := by
  rcases result with _ | _ | _ | _ <;> simp only [record, total] <;> omega

theorem total_foldl (results : List (Except Error Outcome)) (tally : ReloadTally) :
    (results.foldl record tally).total = tally.total + results.length := by
  induction results generalizing tally with
  | nil => rfl
  | cons result rest ih =>
    rw [List.foldl_cons, ih, total_record, List.length_cons]
    omega

end ReloadTally

namespace Engine

variable {e : Engine} {s : Surroundings}

/-! ## Tables in any order -/

/-- A call makes no difference to the call of another table. -/
theorem reload_ask (hs : s.remote.Steady) (source : Source) (t : Table) (timeout : Nat) :
    (t.reload timeout (source.ask timeout s)).1 = (t.reload timeout s).1 ∧
      (t.reload timeout (source.ask timeout s)).2.1 = (t.reload timeout s).2.1 :=
  Table.refresh_congr (source.ask_onlyRequests timeout s) hs t false timeout

theorem ask_steady (hs : s.remote.Steady) (source : Source) (timeout : Nat) :
    (source.ask timeout s).remote.Steady :=
  (source.ask_onlyRequests timeout s).later.steady hs

theorem Apart.reload {p q : TableKind × Table} (h : Apart p q) (timeout : Nat)
    (s : Surroundings) :
    ¬(p.1 = q.1 ∧ (p.2.reload timeout s).2.1.tag = (q.2.reload timeout s).2.1.tag) := by
  unfold Table.reload
  rw [(p.2.refresh_frame false timeout s).2.1, (q.2.refresh_frame false timeout s).2.1]
  exact h

theorem Apart.symm {p q : TableKind × Table} (h : Apart p q) : Apart q p :=
  fun hsame => h ⟨hsame.1.symm, hsame.2.symm⟩

/-- Tables filed in different places can be reloaded in any order.  By induction on the
permutation; what two calls come to is the same when they change places. -/
theorem reloadEach_perm {work work' : List (TableKind × Table)} (hperm : work'.Perm work)
    (h : work.Pairwise Apart) (e : Engine) (hs : s.remote.Steady) (tally : ReloadTally) :
    e.reloadEach s tally work' = e.reloadEach s tally work := by
  induction hperm generalizing e s tally with
  | nil => rfl
  | cons p _ ih =>
    rw [reloadEach_cons, reloadEach_cons]
    exact ih (List.pairwise_cons.mp h).2 _ (ask_steady hs p.2.source _) _
  | swap p q rest =>
    -- Neither call finds anything else after the other, and what they leave goes to two places.
    have hapart : Apart p q := (List.pairwise_cons.mp h).1 q List.mem_cons_self
    have hp := reload_ask hs q.2.source p.2 e.fetchTimeout
    have hq := reload_ask hs p.2.source q.2 e.fetchTimeout
    simp only [reloadEach_cons, hp.1, hp.2, hq.1, hq.2]
    rw [ReloadTally.record_comm, TableIndexes.insert_comm _ (hapart.reload e.fetchTimeout s),
      Source.ask_comm]
  | trans _ hsecond ih₁ ih₂ =>
    exact (ih₁ (h.perm hsecond.symm Apart.symm) e hs tally).trans (ih₂ h e hs tally)

/-! ## Each table on its own -/

/-- By induction on the tables.  The first one is not called again, and its call makes no difference
to the others. -/
theorem reloadEach_get? (e : Engine) (hs : s.remote.Steady) (tally : ReloadTally)
    {work : List (TableKind × Table)} (h : work.Pairwise Apart) :
    (∀ p ∈ work, (e.reloadEach s tally work).2.1.tables.get? p.1 p.2.tag =
      some (p.2.reload e.fetchTimeout s).2.1) ∧
    ∀ kind tag, (∀ p ∈ work, ¬(p.1 = kind ∧ p.2.tag = tag)) →
      (e.reloadEach s tally work).2.1.tables.get? kind tag = e.tables.get? kind tag := by
  induction work generalizing e s tally with
  | nil => exact ⟨fun p hp => absurd hp List.not_mem_nil, fun _ _ _ => rfl⟩
  | cons first rest ih =>
    obtain ⟨kind, t⟩ := first
    obtain ⟨hfirst, hrest⟩ := List.pairwise_cons.mp h
    have htag : (t.reload e.fetchTimeout s).2.1.tag = t.tag := (t.refresh_frame ..).2.1
    obtain ⟨hcalled, hothers⟩ := ih
      { e with tables := e.tables.insert kind (t.reload e.fetchTimeout s).2.1 }
      (ask_steady hs t.source e.fetchTimeout) (tally.record (t.reload e.fetchTimeout s).1) hrest
    rw [reloadEach_cons]
    constructor
    · intro p hp
      rcases List.mem_cons.mp hp with rfl | hp
      · -- The first table was put in, and no later one takes its place.
        have hlater : ∀ q ∈ rest, ¬(q.1 = kind ∧ q.2.tag = t.tag) :=
          fun q hq hsame => hfirst q hq ⟨hsame.1.symm, hsame.2.symm⟩
        refine (hothers kind t.tag hlater).trans ?_
        rw [TableIndexes.get?_insert, if_pos ⟨rfl, htag.symm⟩]
      · refine (hcalled p hp).trans ?_
        exact congrArg some (reload_ask hs t.source p.2 e.fetchTimeout).2
    · intro k tag hk
      refine (hothers k tag fun q hq => hk q (List.mem_cons_of_mem _ hq)).trans ?_
      have hne : ¬(k = kind ∧ tag = (t.reload e.fetchTimeout s).2.1.tag) := by
        rw [htag]
        exact fun hsame => hk (kind, t) List.mem_cons_self ⟨hsame.1.symm, hsame.2.symm⟩
      rw [TableIndexes.get?_insert, if_neg hne]

theorem reloadTables_get? (h : e.tables.IsFiled) (hs : s.remote.Steady) (request : KindSelection)
    (kind : TableKind) (tag : String) :
    (e.reloadTables request s).2.1.tables.get? kind tag = (e.tables.get? kind tag).map fun t =>
      if request.asks kind then (t.reload e.fetchTimeout s).2.1 else t := by
  obtain ⟨hcalled, hothers⟩ := e.reloadEach_get? hs .empty (requested_pairwise h request)
  -- A table is among those called if it is there and of a kind that is asked for.
  by_cases hthere : ∃ t, e.tables.get? kind tag = some t ∧ request.asks kind = true
  · obtain ⟨t, ht, hasked⟩ := hthere
    obtain ⟨-, rfl⟩ := h kind tag t ht
    have hmem : (kind, t) ∈ e.requested request := (mem_requested h request).mpr ⟨hasked, ht⟩
    rw [ht, Option.map_some, if_pos hasked]
    exact hcalled (kind, t) hmem
  · have hnot : ∀ p ∈ e.requested request, ¬(p.1 = kind ∧ p.2.tag = tag) := by
      rintro p hp ⟨rfl, rfl⟩
      obtain ⟨hasked, ht⟩ := (mem_requested h request).mp hp
      exact hthere ⟨p.2, ht, hasked⟩
    refine (hothers kind tag hnot).trans ?_
    cases ht : e.tables.get? kind tag with
    | none => rfl
    | some t =>
      have hasked : ¬request.asks kind = true := fun hasked => hthere ⟨t, ht, hasked⟩
      rw [Option.map_some, if_neg hasked]

/-! ## The sum over the tables -/

theorem reloadEach_tally (e : Engine) (hs : s.remote.Steady) (tally : ReloadTally)
    (work : List (TableKind × Table)) :
    (e.reloadEach s tally work).1 =
      (work.map fun p => (p.2.reload e.fetchTimeout s).1).foldl .record tally := by
  induction work generalizing e s tally with
  | nil => rfl
  | cons first rest ih =>
    have hlater : ∀ p ∈ rest,
        (p.2.reload e.fetchTimeout (first.2.source.ask e.fetchTimeout s)).1 =
          (p.2.reload e.fetchTimeout s).1 :=
      fun p _ => (reload_ask hs first.2.source p.2 e.fetchTimeout).1
    rw [reloadEach_cons, ih _ (ask_steady hs _ _), List.map_congr_left hlater, List.map_cons,
      List.foldl_cons]

theorem reloadEach_onlyRequests (e : Engine) (s : Surroundings) (tally : ReloadTally)
    (work : List (TableKind × Table)) : s.OnlyRequests (e.reloadEach s tally work).2.2 := by
  induction work generalizing e s tally with
  | nil => exact .refl s
  | cons first rest ih =>
    rw [reloadEach_cons]
    exact (first.2.source.ask_onlyRequests _ s).trans (ih _ _ _)

theorem reloadEach_asked (e : Engine) (s : Surroundings) (tally : ReloadTally)
    (work : List (TableKind × Table)) (url : String) :
    (e.reloadEach s tally work).2.2.remote.asked url =
      s.remote.asked url +
        if s.remote.isOnline = true then work.countP fun p => p.2.source == .url url else 0 := by
  induction work generalizing e s tally with
  | nil => simp [reloadEach]
  | cons first rest ih =>
    rw [reloadEach_cons, ih, Source.asked_ask, Source.isOnline_ask, List.countP_cons]
    cases s.remote.isOnline with
    | false => rfl
    | true =>
      simp only [true_and, if_true, beq_iff_eq]
      omega

/-! ## The tables of a request -/

def isAt (kind : TableKind) (tag : String) (p : TableKind × Table) : Bool :=
  p.1 == kind && p.2.tag == tag

theorem countP_isAt_le_one {work : List (TableKind × Table)} (h : work.Pairwise Apart)
    (kind : TableKind) (tag : String) : work.countP (isAt kind tag) ≤ 1 := by
  induction work with
  | nil => exact Nat.zero_le 1
  | cons first rest ih =>
    obtain ⟨hfirst, hrest⟩ := List.pairwise_cons.mp h
    rw [List.countP_cons]
    split
    · next hat =>
      -- Another one in the same place would not be apart from the first.
      have hnone : rest.countP (isAt kind tag) = 0 := by
        rw [List.countP_eq_zero]
        intro q hq hqat
        simp only [isAt, Bool.and_eq_true, beq_iff_eq] at hat hqat
        exact hfirst q hq ⟨hat.1.trans hqat.1.symm, hat.2.trans hqat.2.symm⟩
      omega
    · exact ih hrest

theorem countP_requested (h : e.tables.IsFiled) (request : KindSelection) (kind : TableKind)
    (tag : String) :
    (e.requested request).countP (isAt kind tag) =
      if request.asks kind = true ∧ (e.tables.get? kind tag).isSome = true then 1 else 0 := by
  have hle := countP_isAt_le_one (requested_pairwise h request) kind tag
  split
  · next hthere =>
    obtain ⟨t, ht⟩ := Option.isSome_iff_exists.mp hthere.2
    obtain ⟨-, rfl⟩ := h kind tag t ht
    have hpos : 0 < (e.requested request).countP (isAt kind t.tag) := by
      rw [List.countP_pos_iff]
      exact ⟨(kind, t), (mem_requested h request).mpr ⟨hthere.1, ht⟩, by simp [isAt]⟩
    omega
  · next hnot =>
    rw [List.countP_eq_zero]
    intro p hp hat
    obtain ⟨hasked, ht⟩ := (mem_requested h request).mp hp
    simp only [isAt, Bool.and_eq_true, beq_iff_eq] at hat
    rw [← hat.1, ← hat.2, ht] at hnot
    exact hnot ⟨hasked, rfl⟩

theorem length_requested (e : Engine) (request : KindSelection) :
    (e.requested request).length =
      (request.kinds.map fun kind => (e.tables.ofKind kind).size).sum := by
  unfold requested
  rw [List.length_flatMap]
  refine congrArg List.sum (List.map_congr_left ?_)
  intro kind _
  rw [List.length_map, TableIndex.toList, List.length_map, Std.ExtTreeMap.length_toList]
  rfl

/-- After any operations and in any surroundings in which every URL goes on giving the same,
reloading the tables of some kinds
  1. calls every table of these kinds once and asks for a URL once for every table that has it as
     its source, without any other change to the surroundings;
  2. counts what each table returns when it is called alone, which adds up to the number of tables
     of these kinds;
  3. leaves each of them as its own reload leaves it, and everything else as it was;
  4. comes to the same if the tables are called in any other order. -/
theorem reloadTables_each_once (s₀ : Surroundings) (ops : List Operation)
    (request : KindSelection) (s : Surroundings) (hs : s.remote.Steady) :
    let e := ((Course.start s₀).take ops).engine
    let work := e.requested request
    let (tally, after, s') := e.reloadTables request s
    (∀ kind tag, work.countP (isAt kind tag) =
        if request.asks kind = true ∧ (e.tables.get? kind tag).isSome = true then 1 else 0) ∧
      (∀ url, s'.remote.asked url = s.remote.asked url +
        if s.remote.isOnline = true then work.countP fun p => p.2.source == .url url else 0) ∧
      s.OnlyRequests s' ∧
      tally = (work.map fun p => (p.2.reload e.fetchTimeout s).1).foldl .record .empty ∧
      tally.total = (request.kinds.map fun kind => (e.tables.ofKind kind).size).sum ∧
      (∀ kind tag, after.tables.get? kind tag = (e.tables.get? kind tag).map fun t =>
        if request.asks kind then (t.reload e.fetchTimeout s).2.1 else t) ∧
      after = { e with tables := after.tables } ∧
      ∀ work', work'.Perm work → e.reloadEach s .empty work' = (tally, after, s') := by
  intro e work
  have hfiled : e.tables.IsFiled := (Course.agrees_take s₀ ops).tables.filed
  have htally := e.reloadEach_tally hs .empty work
  refine ⟨countP_requested hfiled request, e.reloadEach_asked s .empty work,
    e.reloadEach_onlyRequests s .empty work, htally, ?_, reloadTables_get? hfiled hs request,
    e.reloadEach_frame s .empty work, ?_⟩
  · rw [htally, ReloadTally.total_foldl, List.length_map, length_requested]
    exact Nat.zero_add _
  · intro work' hperm
    exact reloadEach_perm hperm (requested_pairwise hfiled request) e hs .empty

/-- A table without its file, one that is given and one that is served, reloaded from the last to
the first. -/
theorem reloadTables_each_once_reversed :
    let s : Surroundings := ⟨.empty 0, (Remote.empty true).setBody "http://lists/lan" [0x3A, 0x3A]⟩
    let ops : List Operation :=
      [.put .keyword "ads" (.file "ads.txt") [], .put .domain "cn" (.inline "cn.net") [],
        .put .network "lan" (.url "http://lists/lan") []]
    let e := ((Course.start s).take ops).engine
    let work := e.requested .all
    s.remote.Steady ∧ work.reverse.Perm work ∧
      e.reloadEach s .empty work.reverse = e.reloadTables .all s ∧
      (e.reloadEach s .empty work.reverse).1 = ⟨1, 1, 1⟩ := by
  intro s ops e work
  have hs : s.remote.Steady := (Remote.empty_steady true).setAll "http://lists/lan" _
  have hperm : work.reverse.Perm work := List.reverse_perm work
  obtain ⟨-, -, -, -, -, -, -, horder⟩ := reloadTables_each_once s ops .all s hs
  have hreversed : e.reloadEach s .empty work.reverse = e.reloadTables .all s :=
    horder work.reverse hperm
  refine ⟨hs, hperm, hreversed, ?_⟩
  rw [hreversed]
  decide +kernel

end Engine

end TagRules
