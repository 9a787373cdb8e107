import Mathlib.Data.List.Induction
import TagRules.Proofs.Engine.Memory
import TagRules.Proofs.Engine.Operations

/-
  How far the memory of recent matches may lag behind the rules.

  Tables and geographic sets change, and the memory is not told.  A row may then say that a
  name matches that no longer does, but never one that never did: every row comes from a
  question that held the name of the row against the rules of its tag and found the class of
  the row, at the time that the row has, after the memory was last emptied (`HitSince`).
    1. `matchCanonical_cases` says once what a question about one tag can do;
    2. `mem_afterQuery` — a question adds only rows for what it just found in the rules;
    3. `Recalls.step` — nothing else adds rows, and what empties the memory leaves none.
  `matchName_stale` reads off what an answer is worth after any operations.  One of yes is by
  the rules as they are, or as they were at a time that the memory still goes back to; one of
  no is always by the rules as they are.
-/

namespace TagRules.Engine

/-! ## What is tried, and when the memory is emptied -/

/-- A question tries a tag in canonical form and a name at some time: it is about this tag, or it
comes to it because no tag before it matched. -/
inductive Query.Tries (e : Engine) (time : Nat) (code name : String) : Query → Prop where
  | name {tag : String} (htag : Tag.normalize tag = code) :
    Tries e time code name (.name time tag name)
  | tags (before : List String) {tag : String} (after : List String) {reverse : Bool}
    (htag : Tag.normalize tag = code)
    (hbefore : (e.matchFirst time name reverse before).1 = false) :
    Tries e time code name (.tags time (before ++ tag :: after) name reverse)

/-- An operation empties the memory: it is cleared, or another one is set. -/
inductive Operation.Empties : Operation → Prop where
  | clear : Empties .clearCache
  | set (capacity ttl : Nat) : Empties (.set (.cache capacity ttl))

/-- Since the memory was last emptied, a question tried a tag and a name at some time, and the
rules of that time gave a class. -/
def Course.HitSince (c : Course) (ops : List Operation) (time : Nat) (code name : String)
    (cls : CountClass) : Prop :=
  ∃ before q after, ops = before ++ .ask q :: after ∧
    q.Tries (c.take before).engine time code name ∧
    (c.take before).engine.firstHit? code name = some cls ∧ ∀ op ∈ after, ¬op.Empties

namespace Course.HitSince

variable {c : Course} {ops : List Operation} {time : Nat} {code name : String} {cls : CountClass}

theorem append (h : c.HitSince ops time code name cls) {op : Operation} (hop : ¬op.Empties) :
    c.HitSince (ops ++ [op]) time code name cls := by
  obtain ⟨before, q, after, rfl, htries, hit, hafter⟩ := h
  refine ⟨before, q, after ++ [op], by simp, htries, hit, ?_⟩
  intro other hother
  rcases List.mem_append.mp hother with hother | hother
  · exact hafter other hother
  · rwa [List.mem_singleton.mp hother]

theorem last {q : Query} (htries : q.Tries (c.take ops).engine time code name)
    (hit : (c.take ops).engine.firstHit? code name = some cls) :
    c.HitSince (ops ++ [.ask q]) time code name cls :=
  ⟨ops, q, [], rfl, htries, hit, fun _ hop => absurd hop List.not_mem_nil⟩

end Course.HitSince

/-! ## What a question does to the memory -/

variable {e : Engine} {row : MatchRow}

/-- The memory answers first, and then the rules. -/
theorem matchCanonical_eq (e : Engine) (now : Nat) (tag name : String) :
    e.matchCanonical now tag name =
      match (e.cache.get now tag name).1, e.firstHit? tag name with
      | some cls, _ => (true, (e.withMemory (e.cache.get now tag name).2).count cls tag)
      | none, some cls =>
        (true, (e.withMemory ((e.cache.get now tag name).2.insert now tag name cls)).count cls tag)
      | none, none => (false, e.withMemory (e.cache.get now tag name).2) := by
  unfold matchCanonical remembered
  rcases e.cache.get now tag name with ⟨_ | cls, recent⟩
  · dsimp only
    rw [classOf?_eq_firstHit?, show firstHit? { e with cache := recent } tag name =
      e.firstHit? tag name from rfl]
    cases e.firstHit? tag name <;> rfl
  · rfl

/-- Under a tag in canonical form a name is answered by a row that is still good, or by the rules,
which add a row if they match. -/
theorem matchCanonical_cases (e : Engine) (now : Nat) (tag name : String) :
    (∃ row ∈ e.cache.rows, (row.tag = tag ∧ row.name = name) ∧
      now - row.stored < e.cache.ttl ∧
      e.matchCanonical now tag name =
        (true, (e.withMemory (e.cache.get now tag name).2).count row.cls tag)) ∨
    (∃ cls, e.firstHit? tag name = some cls ∧
      e.matchCanonical now tag name =
        (true, (e.withMemory ((e.cache.get now tag name).2.insert now tag name cls)).count cls
          tag)) ∨
    (e.firstHit? tag name = none ∧
      e.matchCanonical now tag name = (false, e.withMemory (e.cache.get now tag name).2)) := by
  rw [matchCanonical_eq]
  cases hget : (e.cache.get now tag name).1 with
  | some cls =>
    obtain ⟨row, hrow, ⟨htag, hname, rfl⟩, hlive⟩ := RecentMatches.exists_live_of_get hget
    exact .inl ⟨row, hrow, ⟨htag, hname⟩, hlive, rfl⟩
  | none =>
    cases hhit : e.firstHit? tag name with
    | some cls => exact .inr (.inl ⟨cls, rfl, rfl⟩)
    | none => exact .inr (.inr ⟨rfl, rfl⟩)

theorem mem_matchCanonical {now : Nat} {tag name : String}
    (h : row ∈ (e.matchCanonical now tag name).2.cache.rows) :
    row ∈ e.cache.rows ∨
      (e.matchCanonical now tag name).1 = true ∧ e.firstHit? tag name = some row.cls ∧
        row.tag = tag ∧ row.name = name ∧ row.stored = now := by
  rcases e.matchCanonical_cases now tag name with
    ⟨_, -, -, -, heq⟩ | ⟨cls, hhit, heq⟩ | ⟨-, heq⟩
  · rw [heq] at h
    exact .inl (RecentMatches.mem_of_mem_get h)
  · rw [heq] at h ⊢
    rcases RecentMatches.eq_or_mem_of_mem_insert h with rfl | h
    · exact .inr ⟨rfl, hhit, rfl, rfl, rfl⟩
    · exact .inl (RecentMatches.mem_of_mem_get h)
  · rw [heq] at h
    exact .inl (RecentMatches.mem_of_mem_get h)

theorem SameRules.firstHit?_eq {e' : Engine} (h : SameRules e e') (tag name : String) :
    e'.firstHit? tag name = e.firstHit? tag name := by
  obtain ⟨_, _, _, rfl⟩ := h
  rfl

theorem matchFirst_of_hit {now : Nat} {name tag : String}
    (h : (e.matchCanonical now (Tag.normalize tag) name).1 = true) (reverse : Bool)
    (rest : List String) :
    e.matchFirst now name reverse (tag :: rest) =
      e.matchCanonical now (Tag.normalize tag) name := by
  unfold matchFirst
  dsimp only
  split
  · next e' hmatch => exact hmatch.symm
  · next e' hmatch =>
    rw [hmatch] at h
    cases h

theorem matchFirst_cons_of_miss {between : Engine} {now : Nat} {name tag : String}
    (h : e.matchCanonical now (Tag.normalize tag) name = (false, between)) (reverse : Bool)
    (rest : List String) :
    e.matchFirst now name reverse (tag :: rest) =
      (if reverse then between.count .domain (missName (Tag.normalize tag))
        else between).matchFirst now name reverse rest := by
  rw [matchFirst, h]

/-- What comes after a tag that does not match is asked under the same rules and with what its
question left in the memory. -/
theorem matchFirst_of_miss {now : Nat} {name tag : String}
    (h : (e.matchCanonical now (Tag.normalize tag) name).1 = false) (reverse : Bool) :
    ∃ e', SameRules e e' ∧
      e'.cache = (e.matchCanonical now (Tag.normalize tag) name).2.cache ∧
      ∀ rest,
        e.matchFirst now name reverse (tag :: rest) = e'.matchFirst now name reverse rest := by
  have hsame := SameRules.matchCanonical e now (Tag.normalize tag) name
  refine ⟨_, ?_, ?_, matchFirst_cons_of_miss (Prod.ext h rfl) reverse⟩
  · split
    · exact hsame.trans (.count ..)
    · exact hsame
  · split <;> rfl

/-- By induction on the tags.  A row for a later tag is only added when the tags before it did not
match, and these changed no rules. -/
theorem mem_matchFirst {now : Nat} {name : String} {reverse : Bool} {tags : List String}
    (h : row ∈ (e.matchFirst now name reverse tags).2.cache.rows) :
    row ∈ e.cache.rows ∨
      Query.Tries e row.stored row.tag row.name (.tags now tags name reverse) ∧
        e.firstHit? row.tag row.name = some row.cls := by
  induction tags generalizing e with
  | nil => exact .inl h
  | cons tag rest ih =>
    cases hfirst : (e.matchCanonical now (Tag.normalize tag) name).1 with
    | true =>
      rw [matchFirst_of_hit hfirst] at h
      rcases mem_matchCanonical h with hold | ⟨-, hhit, htag, rfl, rfl⟩
      · exact .inl hold
      · refine .inr ⟨?_, ?_⟩
        · exact .tags [] rest htag.symm rfl
        · rwa [htag]
    | false =>
      obtain ⟨e', hsame, hcache, hrest⟩ := matchFirst_of_miss hfirst reverse
      rw [hrest] at h
      rcases ih h with hold | ⟨htries, hhit⟩
      · -- A question that found nothing added no row.
        rw [hcache] at hold
        rcases mem_matchCanonical hold with hold | ⟨hmatched, -⟩
        · exact .inl hold
        · rw [hfirst] at hmatched
          cases hmatched
      · rw [hsame.firstHit?_eq] at hhit
        cases htries with
        | tags before after htag hbefore =>
          refine .inr ⟨.tags (tag :: before) after htag ?_, hhit⟩
          rw [hrest]
          exact hbefore

/-! ## What questions and other operations leave in the memory -/

theorem cache_countIf (e : Engine) (hit : Bool) (cls : CountClass) (name : String) :
    (e.countIf hit cls name).2.cache = e.cache := by
  cases hit <;> rfl

theorem cache_forNetText (query : Engine → String → Net.Network → Bool × Engine) {tag : String}
    (h : ∀ n, (query e tag n).2.cache = e.cache) (text : String) :
    (e.forNetText query tag text).2.cache = e.cache := by
  unfold forNetText
  split
  · exact h _
  · rfl

theorem cache_resolveClient (e : Engine) (tag client : String) :
    (e.resolveClient tag client).2.cache = e.cache := by
  unfold resolveClient
  split <;> rfl

theorem mem_afterQuery {q : Query} (h : row ∈ (e.afterQuery q).cache.rows) :
    row ∈ e.cache.rows ∨
      q.Tries e row.stored row.tag row.name ∧ e.firstHit? row.tag row.name = some row.cls := by
  cases q with
  | geoNetwork tag n => exact .inl (cache_countIf e .. ▸ h)
  | geoAddress tag a => exact .inl (cache_countIf e .. ▸ h)
  | tableNet tag n => exact .inl (cache_countIf e .. ▸ h)
  | tableNetText tag text =>
    exact .inl (cache_forNetText matchTableNet (fun n => cache_countIf e ..) text ▸ h)
  | net tag n => exact .inl (cache_countIf e .. ▸ h)
  | netText tag text =>
    exact .inl (cache_forNetText matchNet (fun n => cache_countIf e ..) text ▸ h)
  | site kind tag name => exact .inl (cache_countIf e .. ▸ h)
  | keyword tag name => exact .inl (cache_countIf e .. ▸ h)
  | client tag client => exact .inl (cache_resolveClient e .. ▸ h)
  | name now tag name =>
    rcases mem_matchCanonical h with hold | ⟨-, hhit, htag, rfl, rfl⟩
    · exact .inl hold
    · refine .inr ⟨.name htag.symm, ?_⟩
      rwa [htag]
  | tags now tags name reverse =>
    simp only [afterQuery, matchTags] at h
    split at h
    · exact .inl h
    · exact mem_matchFirst h

theorem cache_step (c : Course) {op : Operation} (hop : ¬op.Empties) (hask : ∀ q, op ≠ .ask q) :
    (c.step op).engine.cache = c.engine.cache := by
  by_cases hloading : op.IsLoading
  · rw [c.step_frame hloading]
  · cases op with
    | outside | declare | put | call => exact absurd trivial hloading
    | reloadTables | rebuildNetworks | rebuildSites | rebuildGeo => exact absurd trivial hloading
    | set setting =>
      cases setting with
      | cache capacity ttl => exact absurd (.set capacity ttl) hop
      | catalog | refresher | sink | timeout | geoCodes => rfl
    | ask q => exact absurd rfl (hask q)
    | countMetric | resetCounters => rfl
    | clearCache => exact absurd .clear hop

/-- Only questions add rows, and what empties the memory leaves none. -/
theorem mem_step {c : Course} {op : Operation} (h : row ∈ (c.step op).engine.cache.rows) :
    (row ∈ c.engine.cache.rows ∧ ¬op.Empties) ∨
      ∃ q, op = .ask q ∧ q.Tries c.engine row.stored row.tag row.name ∧
        c.engine.firstHit? row.tag row.name = some row.cls := by
  by_cases hop : op.Empties
  · cases hop <;> cases h
  by_cases hask : ∃ q, op = .ask q
  · obtain ⟨q, rfl⟩ := hask
    rcases mem_afterQuery h with hold | hnew
    · exact .inl ⟨hold, hop⟩
    · exact .inr ⟨q, rfl, hnew⟩
  · rw [cache_step c hop fun q hq => hask ⟨q, hq⟩] at h
    exact .inl ⟨h, hop⟩

/-! ## Where every row comes from -/

/-- Every row is from a question since the memory was last emptied. -/
def Course.Recalls (c : Course) (ops : List Operation) : Prop :=
  ∀ row ∈ (c.take ops).engine.cache.rows, c.HitSince ops row.stored row.tag row.name row.cls

theorem Course.take_append (c : Course) (ops : List Operation) (op : Operation) :
    c.take (ops ++ [op]) = (c.take ops).step op := by
  simp [take]

theorem Course.Recalls.step {c : Course} {ops : List Operation} (h : c.Recalls ops)
    (op : Operation) : c.Recalls (ops ++ [op]) := by
  intro row hrow
  rw [Course.take_append] at hrow
  rcases mem_step hrow with ⟨hold, hop⟩ | ⟨q, rfl, htries, hhit⟩
  · exact (h row hold).append hop
  · exact .last htries hhit

theorem Course.recalls_take {c : Course} (h : c.engine.cache.rows = []) (ops : List Operation) :
    c.Recalls ops := by
  induction ops using List.reverseRecOn with
  | nil =>
    intro row hrow
    rw [show (c.take []).engine = c.engine from rfl, h] at hrow
    cases hrow
  | append_singleton ops op ih => exact ih.step op

/-- After any operations on an engine whose memory is empty at first, an answer of yes to whether a
name matches under a tag counts one for the tag in canonical form, under a class that the rules
give for this tag and name: now, or when a question tried them after the memory was last emptied,
which is less than the time to live ago.  An answer of no is by the rules as they are and counts
nothing.  What the memory finds for any tag and name is a row for this tag and name, and such a
question found the class of the row. -/
theorem matchName_stale (e : Engine) (capacity ttl : Nat) (s : Surroundings) (h : History)
    (ops : List Operation) (now : Nat) (tag name : String) :
    let begun : Course := ⟨e.withMemory (.create capacity ttl), s, h⟩
    let e := (begun.take ops).engine
    let code := Tag.normalize tag
    let asked := e.matchName now tag name
    (asked.1 = true → ∃ cls,
      asked.2.counters = e.counters.increment cls code 1 ∧
      asked.2.sink = e.sink.map (fun c => c.increment cls code 1) ∧
      (e.firstHit? code name = some cls ∨
        ∃ time, now - time < e.cache.ttl ∧ begun.HitSince ops time code name cls)) ∧
    (asked.1 = false →
      e.firstHit? code name = none ∧ asked.2.counters = e.counters ∧ asked.2.sink = e.sink) ∧
    ∀ now tag name cls, (e.cache.get now tag name).1 = some cls →
      ∃ row ∈ e.cache.rows, (row.tag = tag ∧ row.name = name ∧ row.cls = cls) ∧
        begun.HitSince ops row.stored tag name cls := by
  intro begun e code asked
  have hrecalls : begun.Recalls ops := Course.recalls_take rfl ops
  have hcases := e.matchCanonical_cases now code name
  rw [show e.matchCanonical now code name = asked from rfl] at hcases
  refine ⟨?_, ?_, ?_⟩
  · intro hyes
    rcases hcases with ⟨row, hrow, ⟨htag, hname⟩, hlive, heq⟩ | ⟨cls, hhit, heq⟩ | ⟨-, heq⟩
    · have hsince := hrecalls row hrow
      rw [htag, hname] at hsince
      rw [heq]
      exact ⟨row.cls, rfl, rfl, .inr ⟨row.stored, hlive, hsince⟩⟩
    · rw [heq]
      exact ⟨cls, rfl, rfl, .inl hhit⟩
    · rw [heq] at hyes
      cases hyes
  · intro hno
    rcases hcases with ⟨row, -, -, -, heq⟩ | ⟨cls, -, heq⟩ | ⟨hnone, heq⟩
    · rw [heq] at hno
      cases hno
    · rw [heq] at hno
      cases hno
    · rw [heq]
      exact ⟨hnone, rfl, rfl⟩
  · intro now tag name cls hget
    obtain ⟨row, hrow, rfl, rfl, rfl⟩ := RecentMatches.exists_row_of_get hget
    exact ⟨row, hrow, ⟨rfl, rfl, rfl⟩, hrecalls row hrow⟩

/-- A keyword that was replaced is still found while the memory has a row for the name. -/
example :
    let s : Surroundings := ⟨.empty 0, .empty true⟩
    let begun : Course := ⟨Engine.empty.withMemory (.create 16 300), s, .empty⟩
    let e := (begun.take
      [.put .keyword "ads" (.inline "ADS alpha") [], .ask (.name 0 "ads" "alpha.net"),
        .put .keyword "ads" (.inline "ADS beta") []]).engine
    (e.matchName 299 "ads" "alpha.net").1 = true ∧ e.firstHit? "ADS" "alpha.net" = none := by
  decide +kernel

end TagRules.Engine
