import TagRules.Proofs.Engine.Counters
import TagRules.Proofs.Engine.StaleMatches

/-
  What a reverse query does that a plain one does not.

  A query about some tags asks them in order, up to the first that matches.  The tags that it
  passes do not matter to the ones that come later: a tag that does not match leaves all
  answers as they were (`hit?_afterMiss`), and what is counted on the way changes none
  (`matchFirst_count`).  So the tags that are passed can be told from the engine as it is before
  the query (`passed`), and so can the answer and what is counted for it (`matchFirst_counts`).

  A reverse query asks the same tags and counts each one it passes.  The order of counting is not
  seen in the counters, so it ends where the plain query and then the counts of the passed tags
  lead (`matchFirst_reverse`).
-/

namespace TagRules.Engine

variable {e : Engine} {now : Nat} {code name tag : String} {cls : CountClass}

/-! ## One tag -/

/-- The class that a name is found under if it is asked about under a tag in canonical form: what
the memory says or, if it says nothing, the rules. -/
def hit? (e : Engine) (now : Nat) (code name : String) : Option CountClass :=
  (e.cache.get now code name).1.or (e.firstHit? code name)

theorem matchCanonical_of_hit (h : e.hit? now code name = some cls) :
    ∃ recent, e.matchCanonical now code name = (true, (e.withMemory recent).count cls code) := by
  rw [matchCanonical_eq]
  unfold hit? at h
  cases hget : (e.cache.get now code name).1 with
  | some found =>
    rw [hget, Option.some_or] at h
    cases h
    exact ⟨_, rfl⟩
  | none =>
    rw [hget, Option.none_or] at h
    rw [h]
    exact ⟨_, rfl⟩

theorem matchCanonical_of_miss (h : e.hit? now code name = none) :
    e.matchCanonical now code name = (false, e.withMemory (e.cache.get now code name).2) := by
  obtain ⟨hget, hrules⟩ := Option.or_eq_none_iff.mp h
  rw [matchCanonical_eq, hget, hrules]

theorem matchCanonical_fst (e : Engine) (now : Nat) (code name : String) :
    (e.matchCanonical now code name).1 = (e.hit? now code name).isSome := by
  cases h : e.hit? now code name with
  | some cls =>
    obtain ⟨recent, heq⟩ := matchCanonical_of_hit h
    rw [heq]
    rfl
  | none =>
    rw [matchCanonical_of_miss h]
    rfl

theorem matchFirst_cons_hit (h : e.hit? now (Tag.normalize tag) name = some cls) (reverse : Bool)
    (rest : List String) :
    e.matchFirst now name reverse (tag :: rest) =
      e.matchCanonical now (Tag.normalize tag) name :=
  matchFirst_of_hit (by rw [matchCanonical_fst, h, Option.isSome_some]) reverse rest

/-- The engine after a tag that a query about some tags passes. -/
def afterMiss (e : Engine) (now : Nat) (name : String) (reverse : Bool) (tag : String) : Engine :=
  let between := e.withMemory (e.cache.get now (Tag.normalize tag) name).2
  if reverse then between.count .domain (missName (Tag.normalize tag)) else between

theorem matchFirst_cons_miss (h : e.hit? now (Tag.normalize tag) name = none) (reverse : Bool)
    (rest : List String) :
    e.matchFirst now name reverse (tag :: rest) =
      (e.afterMiss now name reverse tag).matchFirst now name reverse rest :=
  matchFirst_cons_of_miss (matchCanonical_of_miss h) reverse rest

theorem hit?_afterMiss (h : e.hit? now (Tag.normalize tag) name = none) (reverse : Bool)
    (code' name' : String) :
    (e.afterMiss now name reverse tag).hit? now code' name' = e.hit? now code' name' := by
  have hget := (Option.or_eq_none_iff.mp h).1
  have hcache : (e.afterMiss now name reverse tag).cache =
      (e.cache.get now (Tag.normalize tag) name).2 := by
    cases reverse <;> rfl
  have hrules : (e.afterMiss now name reverse tag).firstHit? code' name' =
      e.firstHit? code' name' := by
    cases reverse <;> rfl
  rw [hit?, hcache, hrules, RecentMatches.get_after_none hget, hit?]

/-! ## Counting on the way -/

theorem counters_count (e : Engine) (cls : CountClass) (name : String) :
    (e.count cls name).counters = e.counters.increment cls name 1 := rfl

theorem count_comm (e : Engine) (cls cls' : CountClass) (name name' : String) :
    (e.count cls name).count cls' name' = (e.count cls' name').count cls name := by
  unfold count
  simp only [Counters.increment_comm _ cls cls' name name', Option.map_map, Function.comp_def]

/-- To count before a question is to count after it. -/
theorem matchCanonical_count (e : Engine) (cls : CountClass) (counted : String) (now : Nat)
    (code name : String) :
    (e.count cls counted).matchCanonical now code name =
      ((e.matchCanonical now code name).1,
        (e.matchCanonical now code name).2.count cls counted) := by
  simp only [matchCanonical_eq]
  rw [show (e.count cls counted).cache = e.cache from rfl,
    show (e.count cls counted).firstHit? code name = e.firstHit? code name from rfl]
  cases (e.cache.get now code name).1 with
  | some found => exact congrArg (Prod.mk true) (count_comm (e.withMemory _) ..)
  | none =>
    cases e.firstHit? code name with
    | some found => exact congrArg (Prod.mk true) (count_comm (e.withMemory _) ..)
    | none => rfl

theorem afterMiss_count (e : Engine) (cls : CountClass) (counted : String) (now : Nat)
    (name : String) (reverse : Bool) (tag : String) :
    (e.count cls counted).afterMiss now name reverse tag =
      (e.afterMiss now name reverse tag).count cls counted := by
  cases reverse with
  | false => rfl
  | true => exact count_comm (e.withMemory _) ..

theorem matchFirst_count (e : Engine) (cls : CountClass) (counted : String) (now : Nat)
    (name : String) (reverse : Bool) (tags : List String) :
    (e.count cls counted).matchFirst now name reverse tags =
      ((e.matchFirst now name reverse tags).1,
        (e.matchFirst now name reverse tags).2.count cls counted) := by
  induction tags generalizing e with
  | nil => rfl
  | cons tag rest ih =>
    cases hhit : e.hit? now (Tag.normalize tag) name with
    | none =>
      have hcount : (e.count cls counted).hit? now (Tag.normalize tag) name = none := hhit
      rw [matchFirst_cons_miss hhit, matchFirst_cons_miss hcount, afterMiss_count, ih]
    | some found =>
      have hcount : (e.count cls counted).hit? now (Tag.normalize tag) name = some found := hhit
      rw [matchFirst_cons_hit hhit, matchFirst_cons_hit hcount, matchCanonical_count]

/-! ## The tags that are passed -/

/-- The tags before the first under which the engine finds the name. -/
def passed (e : Engine) (now : Nat) (name : String) (tags : List String) : List String :=
  tags.takeWhile fun tag => !(e.matchName now tag name).1

/-- Counts tags as ones under which a name is not found. -/
def countMisses (e : Engine) (tags : List String) : Engine :=
  tags.foldl (fun e tag => e.count .domain (missName (Tag.normalize tag))) e

theorem matchName_fst (e : Engine) (now : Nat) (tag name : String) :
    (e.matchName now tag name).1 = (e.hit? now (Tag.normalize tag) name).isSome :=
  matchCanonical_fst e now (Tag.normalize tag) name

theorem passed_cons_hit (h : e.hit? now (Tag.normalize tag) name = some cls)
    (rest : List String) : e.passed now name (tag :: rest) = [] := by
  simp [passed, matchName_fst, h]

theorem passed_cons_miss (h : e.hit? now (Tag.normalize tag) name = none) (reverse : Bool)
    (rest : List String) :
    e.passed now name (tag :: rest) =
      tag :: (e.afterMiss now name reverse tag).passed now name rest := by
  simp [passed, matchName_fst, hit?_afterMiss h, h]

theorem cache_countMisses (e : Engine) (tags : List String) :
    (e.countMisses tags).cache = e.cache := by
  induction tags generalizing e with
  | nil => rfl
  | cons tag rest ih => exact ih (e.count .domain (missName (Tag.normalize tag)))

/-- Every tag in the list adds one to its counter, one that is there twice adds two. -/
theorem value_countMisses (e : Engine) (tags : List String) (k : CountClass) (other : String) :
    (e.countMisses tags).counters.value k other =
      e.counters.value k other + if k = .domain then
        .ofNat (tags.countP fun tag => missName (Tag.normalize tag) = other) else 0 := by
  induction tags generalizing e with
  | nil => simp [countMisses]
  | cons tag rest ih =>
    have hrest := ih (e.count .domain (missName (Tag.normalize tag)))
    rw [counters_count, Counters.value_increment] at hrest
    rw [countMisses, List.foldl_cons, ← countMisses, hrest, List.countP_cons]
    by_cases hk : k = .domain
    · by_cases hother : missName (Tag.normalize tag) = other
      · simp [hk, hother, UInt64.add_assoc, UInt64.add_comm 1]
      · simp [hk, hother, Ne.symm hother]
    · simp [hk]

/-- A reverse query leads where the plain one does and counts the tags that were passed.  By
induction on the tags: what is counted for a passed tag may as well be counted after the rest. -/
theorem matchFirst_reverse (e : Engine) (now : Nat) (name : String) (tags : List String) :
    e.matchFirst now name true tags =
      ((e.matchFirst now name false tags).1,
        (e.matchFirst now name false tags).2.countMisses (e.passed now name tags)) := by
  induction tags generalizing e with
  | nil => rfl
  | cons tag rest ih =>
    cases hhit : e.hit? now (Tag.normalize tag) name with
    | none =>
      have hcounted : e.afterMiss now name true tag =
        (e.afterMiss now name false tag).count .domain (missName (Tag.normalize tag)) := rfl
      rw [matchFirst_cons_miss hhit, matchFirst_cons_miss hhit, passed_cons_miss hhit true, ih,
        hcounted, matchFirst_count]
      rfl
    | some cls =>
      rw [matchFirst_cons_hit hhit, matchFirst_cons_hit hhit, passed_cons_hit hhit]
      rfl

theorem matchFirst_take (e : Engine) (now : Nat) (name : String) (reverse : Bool)
    (tags : List String) :
    e.matchFirst now name reverse (tags.take ((e.passed now name tags).length + 1)) =
      e.matchFirst now name reverse tags := by
  induction tags generalizing e with
  | nil => rfl
  | cons tag rest ih =>
    cases hhit : e.hit? now (Tag.normalize tag) name with
    | none =>
      rw [passed_cons_miss hhit reverse, List.length_cons, List.take_succ_cons,
        matchFirst_cons_miss hhit, matchFirst_cons_miss hhit, ih]
    | some cls =>
      rw [List.take_succ_cons, matchFirst_cons_hit hhit, matchFirst_cons_hit hhit]

theorem matchFirst_fst (e : Engine) (now : Nat) (name : String) (reverse : Bool)
    (tags : List String) :
    (e.matchFirst now name reverse tags).1 = tags.any fun tag => (e.matchName now tag name).1 := by
  simp only [matchName_fst]
  induction tags generalizing e with
  | nil => rfl
  | cons tag rest ih =>
    rw [List.any_cons]
    cases hhit : e.hit? now (Tag.normalize tag) name with
    | none =>
      rw [matchFirst_cons_miss hhit, ih]
      simp only [hit?_afterMiss hhit]
      rfl
    | some cls =>
      rw [matchFirst_cons_hit hhit, matchCanonical_fst, hhit]
      rfl

theorem matchFirst_counts (e : Engine) (now : Nat) (name : String) (tags : List String) :
    match tags.find? fun tag => (e.matchName now tag name).1 with
    | none =>
      (e.matchFirst now name false tags).2.counters = e.counters ∧
        (e.matchFirst now name false tags).2.sink = e.sink
    | some tag => ∃ cls, e.hit? now (Tag.normalize tag) name = some cls ∧
        (e.matchFirst now name false tags).2.counters =
          e.counters.increment cls (Tag.normalize tag) 1 ∧
        (e.matchFirst now name false tags).2.sink =
          e.sink.map fun c => c.increment cls (Tag.normalize tag) 1 := by
  simp only [matchName_fst]
  induction tags generalizing e with
  | nil => exact ⟨rfl, rfl⟩
  | cons tag rest ih =>
    cases hhit : e.hit? now (Tag.normalize tag) name with
    | none =>
      have hrest := ih (e.afterMiss now name false tag)
      simp only [hit?_afterMiss hhit] at hrest
      rw [List.find?_cons_of_neg (by simp [hhit]), matchFirst_cons_miss hhit]
      exact hrest
    | some cls =>
      obtain ⟨recent, heq⟩ := matchCanonical_of_hit hhit
      rw [List.find?_cons_of_pos (by simp [hhit]), matchFirst_cons_hit hhit, heq]
      exact ⟨cls, hhit, rfl, rfl⟩

/-! ## A query and its reverse -/

/-- Whether a query is reverse makes no difference to an empty list of tags: the answer is no and
nothing changes.  Otherwise the answers are opposite, and the reverse query leads where the plain
one does and counts one for each tag that is passed, under the canonical form of the tag after an
exclamation mark.  The plain answer is yes if the engine finds the name under some of the tags, as
it is before the query.  No tag after the first of these makes a difference, and that one adds
one to the counter of its class and of its canonical form, which is all that the plain query
counts. -/
theorem matchTags_reverse (e : Engine) (now : Nat) (tags : List String) (name : String) :
    let finds := fun tag => (e.matchName now tag name).1
    let passed := tags.takeWhile fun tag => !finds tag
    let plain := e.matchTags now tags name false
    let reversed := e.matchTags now tags name true
    (tags = [] → ∀ reverse, e.matchTags now tags name reverse = (false, e)) ∧
    (tags ≠ [] →
      reversed.1 = !plain.1 ∧
      reversed.2 = passed.foldl (fun e tag => e.count .domain (missName (Tag.normalize tag)))
        plain.2 ∧
      reversed.2.cache = plain.2.cache ∧
      (∀ k other, reversed.2.counters.value k other =
        plain.2.counters.value k other + if k = .domain then
          .ofNat (passed.countP fun tag => missName (Tag.normalize tag) = other) else 0)) ∧
    (plain.1 = true ↔ ∃ tag ∈ tags, finds tag = true) ∧
    (∀ reverse, e.matchTags now (tags.take (passed.length + 1)) name reverse =
      e.matchTags now tags name reverse) ∧
    match tags.find? finds with
    | none => plain.2.counters = e.counters ∧ plain.2.sink = e.sink
    | some tag => ∃ cls, e.hit? now (Tag.normalize tag) name = some cls ∧
        plain.2.counters = e.counters.increment cls (Tag.normalize tag) 1 ∧
        plain.2.sink = e.sink.map fun c => c.increment cls (Tag.normalize tag) 1 := by
  intro finds passed plain reversed
  cases tags with
  | nil =>
    refine ⟨fun _ _ => rfl, fun h => absurd rfl h, ?_, fun _ => rfl, rfl, rfl⟩
    exact ⟨nofun, nofun⟩
  | cons first rest =>
    have hasked : ∀ reverse, e.matchTags now (first :: rest) name reverse =
        ((e.matchFirst now name reverse (first :: rest)).1 != reverse,
          (e.matchFirst now name reverse (first :: rest)).2) := fun _ => rfl
    have hplain : plain = e.matchFirst now name false (first :: rest) := by
      rw [show plain = _ from hasked false, Bool.bne_false]
    have hreversed : reversed = (!plain.1, plain.2.countMisses passed) := by
      rw [show reversed = _ from hasked true, matchFirst_reverse, hplain, Bool.bne_true]
      rfl
    rw [hreversed]
    refine ⟨nofun, fun _ => ⟨rfl, rfl, ?_, ?_⟩, ?_, ?_, ?_⟩
    · exact cache_countMisses plain.2 passed
    · exact value_countMisses plain.2 passed
    · rw [hplain, matchFirst_fst, List.any_eq_true]
    · intro reverse
      rw [hasked, ← matchFirst_take]
      rfl
    · rw [hplain]
      exact e.matchFirst_counts now name (first :: rest)

/-- A tag that is passed in two spellings is counted twice, and the tag after the match is not. -/
example :
    let s : Surroundings := ⟨.empty 0, .empty true⟩
    let begun : Course := ⟨Engine.empty, s, .empty⟩
    let e := (begun.take [.put .keyword "ads" (.inline "ADS alpha") []]).engine
    let asked := e.matchTags 0 ["cdn", "CDN", "ads", "lan"] "alpha.net" true
    asked.1 = false ∧ asked.2.counters.value .domain "!CDN" = 2 ∧
      asked.2.counters.value .domain "!LAN" = 0 ∧ asked.2.counters.value .keyword "ADS" = 1 := by
  decide +kernel

end TagRules.Engine
