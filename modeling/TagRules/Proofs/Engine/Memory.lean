import TagRules.Engine.Query
import TagRules.Proofs.Engine.RecentMatches

/-
  The memory of recent matches changes no answer and no counter.

  `firstHit?` is the rule by which a name matches: the domain table of the tag, its
  keyword table, its geographic domain rules, the first of them that matches.
  `NameQuery.judge` answers a query about names by this rule alone; `NameQuery.ask`
  is what the engine does, which asks its memory first.

  A memory is `Faithful` to an engine when every row has the class that the rule gives
  for its tag and name.  The memory of a new engine is, and every query keeps it so
  (`ask_memory`), since a row is only added for what the rule has just found and the
  rest is removal of rows.  From this `transcript_memory`: over any queries, at any
  times and with any room and time to live, what is seen of them is the same as
  without a memory.
-/

namespace TagRules

/-! ## The rule without a memory -/

/-- A query about a name: under one tag, or under some tags up to the first that matches. -/
inductive NameQuery where
  | one (tag name : String)
  | among (tags : List String) (name : String) (reverse : Bool)

namespace Engine

/-- The rules that a name is held against under a tag in canonical form, in order: whether each
matches, and the class it counts for. -/
def contest (e : Engine) (tag name : String) : List (Bool × CountClass) :=
  [((e.tables.get? .domain tag).any fun t => t.isMatch name, .domain),
    ((e.tables.get? .keyword tag).any fun t => t.isMatch name, .keyword),
    ((e.geoSite.get? tag).any fun set => set.matchesAny name, .domain)]

/-- The class of the first rules that match. -/
def firstHit? (e : Engine) (tag name : String) : Option CountClass :=
  ((e.contest tag name).find? Prod.fst).map Prod.snd

/-- Whether a name matches under a tag in canonical form, by the rule alone. -/
def judgeCanonical (e : Engine) (tag name : String) : Bool × Engine :=
  match e.firstHit? tag name with
  | some cls => (true, e.count cls tag)
  | none => (false, e)

/-- Whether a name matches under some of the tags, by the rule alone. -/
def judgeFirst (e : Engine) (name : String) (reverse : Bool) : List String → Bool × Engine
  | [] => (false, e)
  | tag :: rest =>
    match e.judgeCanonical (Tag.normalize tag) name with
    | (true, e) => (true, e)
    | (false, e) =>
      let e := if reverse then e.count .domain (missName (Tag.normalize tag)) else e
      e.judgeFirst name reverse rest

end Engine

namespace NameQuery

def ask (now : Nat) (e : Engine) : NameQuery → Bool × Engine
  | one tag name => e.matchName now tag name
  | among tags name reverse => e.matchTags now tags name reverse

def judge (e : Engine) : NameQuery → Bool × Engine
  | one tag name => e.judgeCanonical (Tag.normalize tag) name
  | among tags name reverse =>
    if tags.isEmpty then (false, e)
    else
      let (found, e) := e.judgeFirst name reverse tags
      (found != reverse, e)

/-- What is seen of a query: its answer, and all counters after it. -/
structure Seen where
  answer : Bool
  counters : Counters
  sink : Option Counters

/-- What is seen of queries one after the other, each at its own time. -/
def transcript (answer : Nat → Engine → NameQuery → Bool × Engine) :
    Engine → List (Nat × NameQuery) → List Seen
  | _, [] => []
  | e, (now, query) :: rest =>
    let (found, e) := answer now e query
    ⟨found, e.counters, e.sink⟩ :: transcript answer e rest

end NameQuery

namespace Engine

theorem classOf?_eq_firstHit? (e : Engine) (tag name : String) :
    e.classOf? tag name = e.firstHit? tag name := by
  unfold classOf? firstHit? contest
  simp only [List.find?_cons]
  split
  · next h => simp [h]
  · next h =>
    rw [Bool.not_eq_true] at h
    simp only [h]
    split
    · next h => simp [h]
    · next h =>
      rw [Bool.not_eq_true] at h
      simp only [h]
      split
      · next h => simp [h]
      · next h => simp [h]

/-! ## Engines that differ in their memory -/

def withMemory (e : Engine) (recent : RecentMatches) : Engine := { e with cache := recent }

/-- Every row has the class that the rule gives for its tag and name. -/
def Faithful (e : Engine) (recent : RecentMatches) : Prop :=
  ∀ row ∈ recent.rows, e.firstHit? row.tag row.name = some row.cls

theorem Faithful.count {e : Engine} {recent : RecentMatches} (h : Faithful e recent)
    (cls : CountClass) (name : String) : Faithful (e.count cls name) recent := h

theorem faithful_create (e : Engine) (capacity ttl : Nat) :
    Faithful e (.create capacity ttl) := fun _ h => absurd h List.not_mem_nil

theorem Faithful.get {e : Engine} {recent : RecentMatches} (h : Faithful e recent) (now : Nat)
    (tag name : String) : Faithful e (recent.get now tag name).2 :=
  fun row hrow => h row (RecentMatches.mem_of_mem_get hrow)

theorem Faithful.insert {e : Engine} {recent : RecentMatches} (h : Faithful e recent) (now : Nat)
    {tag name : String} {cls : CountClass} (hit : e.firstHit? tag name = some cls) :
    Faithful e (recent.insert now tag name cls) := by
  intro row hrow
  rcases RecentMatches.eq_or_mem_of_mem_insert hrow with rfl | hrow
  · exact hit
  · exact h row hrow

/-- What is remembered is what the rule gives. -/
theorem Faithful.firstHit?_of_get {e : Engine} {recent : RecentMatches} (h : Faithful e recent)
    {now : Nat} {tag name : String} {cls : CountClass}
    (hget : (recent.get now tag name).1 = some cls) : e.firstHit? tag name = some cls := by
  obtain ⟨row, hrow, rfl, rfl, rfl⟩ := RecentMatches.exists_row_of_get hget
  exact h row hrow

/-- Two answers with engines that differ in a memory faithful to the first of them. -/
def Agree (judged asked : Bool × Engine) : Prop :=
  ∃ recent, asked = (judged.1, judged.2.withMemory recent) ∧ Faithful judged.2 recent

/-! ## Every query keeps the memory faithful -/

theorem matchCanonical_memory {e : Engine} {recent : RecentMatches} (h : Faithful e recent)
    (now : Nat) (tag name : String) :
    Agree (e.judgeCanonical tag name) ((e.withMemory recent).matchCanonical now tag name) := by
  unfold matchCanonical judgeCanonical remembered
  rw [show (e.withMemory recent).cache = recent from rfl]
  cases hget : recent.get now tag name with
  | mk found after =>
    have hafter : Faithful e after := by
      have := h.get now tag name
      rwa [hget] at this
    cases found with
    | some cls =>
      -- The row answers before any rule is looked at, but with what the rules would say.
      have hit : e.firstHit? tag name = some cls := h.firstHit?_of_get (by rw [hget])
      simp only [hit]
      exact ⟨after, rfl, hafter⟩
    | none =>
      simp only [classOf?_eq_firstHit?]
      rw [show firstHit? { e.withMemory recent with cache := after } tag name =
        e.firstHit? tag name from rfl]
      cases hit : e.firstHit? tag name with
      | some cls => exact ⟨after.insert now tag name cls, rfl, hafter.insert now hit⟩
      | none => exact ⟨after, rfl, hafter⟩

theorem matchFirst_memory {e : Engine} {recent : RecentMatches} (h : Faithful e recent)
    (now : Nat) (name : String) (reverse : Bool) (tags : List String) :
    Agree (e.judgeFirst name reverse tags)
      ((e.withMemory recent).matchFirst now name reverse tags) := by
  induction tags generalizing e recent with
  | nil => exact ⟨recent, rfl, h⟩
  | cons tag rest ih =>
    obtain ⟨after, heq, hafter⟩ := matchCanonical_memory h now (Tag.normalize tag) name
    simp only [matchFirst, judgeFirst, heq]
    cases hj : e.judgeCanonical (Tag.normalize tag) name with
    | mk found judged =>
      rw [hj] at hafter
      cases found with
      | true => exact ⟨after, rfl, hafter⟩
      | false =>
        cases reverse with
        | true => exact ih (hafter.count _ _)
        | false => exact ih hafter

theorem ask_memory {e : Engine} {recent : RecentMatches} (h : Faithful e recent) (now : Nat)
    (query : NameQuery) : Agree (query.judge e) (query.ask now (e.withMemory recent)) := by
  cases query with
  | one tag name => exact matchCanonical_memory h now (Tag.normalize tag) name
  | among tags name reverse =>
    simp only [NameQuery.ask, NameQuery.judge, matchTags]
    split
    · exact ⟨recent, rfl, h⟩
    · obtain ⟨after, heq, hafter⟩ := matchFirst_memory h now name reverse tags
      rw [heq]
      exact ⟨after, rfl, hafter⟩

theorem transcript_of_faithful {e : Engine} {recent : RecentMatches} (h : Faithful e recent)
    (queries : List (Nat × NameQuery)) :
    NameQuery.transcript NameQuery.ask (e.withMemory recent) queries =
      NameQuery.transcript (fun _ e query => query.judge e) e queries := by
  induction queries generalizing e recent with
  | nil => rfl
  | cons query rest ih =>
    obtain ⟨now, query⟩ := query
    obtain ⟨after, heq, hafter⟩ := ask_memory h now query
    unfold NameQuery.transcript
    rw [heq]
    simp only
    rw [ih hafter]
    rfl

/-- An engine whose memory is empty at first, whatever its room and time to live, gives over any
queries the answers and counters that the rule alone gives. -/
theorem transcript_memory (e : Engine) (capacity ttl : Nat) (queries : List (Nat × NameQuery)) :
    NameQuery.transcript NameQuery.ask (e.withMemory (.create capacity ttl)) queries =
      NameQuery.transcript (fun _ e query => query.judge e) e queries :=
  transcript_of_faithful (faithful_create e capacity ttl) queries

end Engine

end TagRules
