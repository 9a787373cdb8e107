import Mathlib.Data.Finset.Card
import Mathlib.Data.Finset.Dedup
import TagRules.Proofs.Engine.RecentMatches

/-
  Which pairs are remembered.

  A pair of a tag and a name is used when it is stored, and when it is looked up and found.  To
  look it up in vain is no use.  `ranked` puts the pairs of a history in the order of their last
  uses, each of them once, and the rows of a memory are for the first of these, as many as there
  is room for (`Watched.Ranks`): a use moves a pair to the front of both lists.  A pair has as many
  pairs before it as were used since it was used itself (`ranked_eq`), so it is remembered if there
  are fewer of them than rows, and then with the class it was last stored with
  (`take_remembers`).

  All of this is for a time to live that does not end.  With none at all nothing is ever found,
  and looking a pair up removes its row (`get_of_ttl_zero`).
-/

namespace TagRules

/-- What a row is for. -/
abbrev MatchPair := String × String

def MatchRow.pair (row : MatchRow) : MatchPair := (row.tag, row.name)

namespace RecentMatches

/-! ## Calls and what is seen of them -/

/-- What a memory is asked to do. -/
inductive Call where
  | insert (tag name : String) (cls : CountClass)
  | get (tag name : String)
  | clear

/-- What is seen of a call. -/
inductive Event where
  | stored (pair : MatchPair) (cls : CountClass)
  | lookedUp (pair : MatchPair) (found : Option CountClass)
  | cleared
  deriving DecidableEq, Repr

def Event.used? : Event → Option MatchPair
  | .stored pair _ => some pair
  | .lookedUp pair (some _) => some pair
  | .lookedUp _ none => none
  | .cleared => none

/-- The class that a pair was stored with. -/
def Event.classFor? (pair : MatchPair) : Event → Option CountClass
  | .stored given cls => if given = pair then some cls else none
  | .lookedUp _ _ => none
  | .cleared => none

/-- What was seen since everything was forgotten, the latest first. -/
def sinceClear (seen : List Event) : List Event := seen.takeWhile (· != .cleared)

/-- The pairs that were used since everything was forgotten, the latest first. -/
def uses (seen : List Event) : List MatchPair := (sinceClear seen).filterMap Event.used?

/-- The class that a pair was last stored with since everything was forgotten. -/
def lastClass? (seen : List Event) (pair : MatchPair) : Option CountClass :=
  (sinceClear seen).findSome? (Event.classFor? pair)

theorem lastClass?_stored (given : MatchPair) (cls : CountClass) (seen : List Event)
    (pair : MatchPair) :
    lastClass? (.stored given cls :: seen) pair =
      if given = pair then some cls else lastClass? seen pair := by
  show List.findSome? _ (Event.stored given cls :: sinceClear seen) = _
  rw [List.findSome?_cons]
  unfold Event.classFor?
  by_cases h : given = pair
  · simp only [if_pos h]
  · simp only [if_neg h]
    rfl

/-- The different pairs that were used since a pair was last used. -/
def usedSince (pair : MatchPair) (uses : List MatchPair) : Finset MatchPair :=
  (uses.takeWhile (· != pair)).toFinset

/-- A memory, and what was seen of the calls on it, the latest first. -/
structure Watched where
  memory : RecentMatches
  seen : List Event

namespace Watched

def start (capacity ttl : Nat) : Watched := ⟨.create capacity ttl, []⟩

def call (w : Watched) (now : Nat) : Call → Watched
  | .insert tag name cls =>
    ⟨w.memory.insert now tag name cls, .stored (tag, name) cls :: w.seen⟩
  | .get tag name =>
    ⟨(w.memory.get now tag name).2,
      .lookedUp (tag, name) (w.memory.get now tag name).1 :: w.seen⟩
  | .clear => ⟨w.memory.clear, .cleared :: w.seen⟩

def take (w : Watched) (calls : List (Nat × Call)) : Watched :=
  calls.foldl (fun w timed => w.call timed.1 timed.2) w

end Watched

/-- No two of the times are as far apart as the time to live. -/
def Lasts (ttl : Nat) (times : List Nat) : Prop := ∀ t ∈ times, ∀ t' ∈ times, t - t' < ttl

/-! ## Pairs in the order of their last uses -/

/-- Each pair once, those used later first. -/
def ranked : List MatchPair → List MatchPair
  | [] => []
  | pair :: earlier => pair :: (ranked earlier).filter (· != pair)

theorem nodup_ranked (uses : List MatchPair) : (ranked uses).Nodup := by
  induction uses with
  | nil => exact List.nodup_nil
  | cons pair earlier ih =>
    unfold ranked
    rw [List.nodup_cons, List.mem_filter]
    exact ⟨by simp, ih.filter _⟩

theorem ranked_eq {uses : List MatchPair} {pair : MatchPair} (h : pair ∈ uses) :
    ∃ before after, ranked uses = before ++ pair :: after ∧
      before.toFinset = usedSince pair uses := by
  unfold usedSince
  induction uses with
  | nil => cases h
  | cons latest earlier ih =>
    by_cases hlatest : latest = pair
    · exact ⟨[], (ranked earlier).filter (· != latest), by rw [ranked, hlatest]; rfl,
        by simp [hlatest]⟩
    · obtain ⟨before, after, hranked, hbefore⟩ :=
        ih ((List.mem_cons.mp h).resolve_left (Ne.symm hlatest))
      refine ⟨latest :: before.filter (· != latest), after.filter (· != latest), ?_, ?_⟩
      · have hpair : (pair != latest) = true := by simpa using Ne.symm hlatest
        have hafter : (pair :: after).filter (· != latest) =
            pair :: after.filter (· != latest) := List.filter_cons_of_pos hpair
        rw [ranked, hranked, List.filter_append, hafter, List.cons_append]
      · rw [List.takeWhile_cons_of_pos (by simpa using hlatest), List.toFinset_cons,
          List.toFinset_cons, ← hbefore]
        ext other
        by_cases hother : other = latest <;> simp [hother]

theorem mem_take_ranked {uses : List MatchPair} {pair : MatchPair} (h : pair ∈ uses) (n : Nat) :
    pair ∈ (ranked uses).take n ↔ (usedSince pair uses).card < n := by
  obtain ⟨before, after, hranked, hbefore⟩ := ranked_eq h
  have hnodup := nodup_ranked uses
  rw [hranked] at hnodup
  have hcard : (usedSince pair uses).card = before.length := by
    rw [← hbefore, List.toFinset_card_of_nodup (List.Nodup.of_append_left hnodup)]
  have hnew : pair ∉ before := fun hmem =>
    List.disjoint_of_nodup_append hnodup hmem List.mem_cons_self
  rw [hranked, hcard, List.take_append, List.mem_append]
  constructor
  · rintro (hmem | hmem)
    · exact absurd (List.mem_of_mem_take hmem) hnew
    · apply Nat.lt_of_not_le
      intro hle
      rw [Nat.sub_eq_zero_of_le hle, List.take_zero] at hmem
      cases hmem
  · intro hlt
    obtain ⟨more, hmore⟩ := Nat.exists_eq_add_of_lt hlt
    have hsub : n - before.length = more + 1 := by omega
    rw [hsub, List.take_succ_cons]
    exact .inr List.mem_cons_self

/-! ## To the front -/

/-- Of a list without repeats one more is enough to have as many of the others. -/
theorem take_filter_ne {α : Type} [BEq α] [LawfulBEq α] {l : List α} (h : l.Nodup) (a : α)
    (n : Nat) :
    ((l.take (n + 1)).filter (· != a)).take n = (l.filter (· != a)).take n := by
  have hsplit : l.filter (· != a) =
      (l.take (n + 1)).filter (· != a) ++ (l.drop (n + 1)).filter (· != a) := by
    rw [← List.filter_append, List.take_append_drop]
  rw [hsplit, List.take_append]
  by_cases hlong : n + 1 ≤ l.length
  · -- At most one of the first `n + 1` is left out, so the rest is not asked for.
    have herase := (h.sublist (List.take_sublist (n + 1) l)).erase_eq_filter a
    have hlength : n ≤ ((l.take (n + 1)).filter (· != a)).length := by
      have htake : (l.take (n + 1)).length = n + 1 := List.length_take_of_le hlong
      rw [← herase, List.length_erase, htake]
      split <;> omega
    rw [Nat.sub_eq_zero_of_le hlength, List.take_zero, List.append_nil]
  · have hnil : l.drop (n + 1) = [] := List.drop_eq_nil_of_le (by omega)
    rw [hnil, List.filter_nil, List.take_nil, List.append_nil]

theorem map_pair_others (recent : RecentMatches) (tag name : String) :
    (recent.others tag name).map MatchRow.pair =
      (recent.rows.map MatchRow.pair).filter (· != (tag, name)) := by
  unfold others
  rw [List.filter_map]
  rfl

theorem map_pair_toFront {recent : RecentMatches} {uses : List MatchPair}
    (h : recent.rows.map MatchRow.pair = (ranked uses).take recent.capacity) (row : MatchRow) :
    ((row :: recent.others row.tag row.name).take recent.capacity).map MatchRow.pair =
      (ranked (row.pair :: uses)).take recent.capacity := by
  rw [List.map_take, List.map_cons, map_pair_others, h, ranked]
  cases recent.capacity with
  | zero => rfl
  | succ n =>
    rw [List.take_succ_cons, List.take_succ_cons]
    exact congrArg (row.pair :: ·) (take_filter_ne (nodup_ranked uses) row.pair n)

/-! ## One call -/

variable {recent : RecentMatches} {now : Nat} {tag name : String}

theorem length_others_lt {row : MatchRow} (hrow : row ∈ recent.rows)
    (hfor : row.isFor tag name = true) :
    (recent.others tag name).length < recent.rows.length :=
  List.length_filter_lt_length_iff_exists.mpr ⟨row, hrow, by simp [hfor]⟩

theorem length_get_le (recent : RecentMatches) (now : Nat) (tag name : String) :
    (recent.get now tag name).2.rows.length ≤ recent.rows.length := by
  unfold get
  split
  · exact Nat.le_refl _
  · next row hfind =>
    have hlt := length_others_lt (List.mem_of_find?_eq_some hfind) (List.find?_some hfind)
    split
    · exact hlt
    · exact Nat.le_of_lt hlt

theorem get_of_ttl_zero (h : recent.ttl = 0) (now : Nat) (tag name : String) :
    recent.get now tag name = (none, { recent with rows := recent.others tag name }) := by
  have hdead : ∀ row, recent.isLive now row = false := by
    intro row
    simp [isLive, h]
  unfold get
  split
  · next hfind =>
    have hall : recent.others tag name = recent.rows := by
      refine List.filter_eq_self.mpr fun row hrow => ?_
      simpa using List.find?_eq_none.mp hfind row hrow
    rw [hall]
  · next row hfind => simp [hdead row]

namespace Watched

theorem call_frame (w : Watched) (now : Nat) (c : Call) :
    (w.call now c).memory.capacity = w.memory.capacity ∧
      (w.call now c).memory.ttl = w.memory.ttl := by
  cases c with
  | insert tag name cls => exact ⟨rfl, rfl⟩
  | get tag name =>
    dsimp only [call]
    unfold get
    split
    · exact ⟨rfl, rfl⟩
    · split <;> exact ⟨rfl, rfl⟩
  | clear => exact ⟨rfl, rfl⟩

theorem length_call_le {w : Watched} (h : w.memory.rows.length ≤ w.memory.capacity) (now : Nat)
    (c : Call) : (w.call now c).memory.rows.length ≤ w.memory.capacity := by
  cases c with
  | insert tag name cls => exact List.length_take_le _ _
  | get tag name => exact Nat.le_trans (length_get_le w.memory now tag name) h
  | clear => exact Nat.zero_le _

/-- The rows are for the pairs that were used last, each with the class it was last stored with, and
were stored at the given times. -/
structure Ranks (w : Watched) (times : List Nat) : Prop where
  pairs : w.memory.rows.map MatchRow.pair = (ranked (uses w.seen)).take w.memory.capacity
  classes : ∀ row ∈ w.memory.rows, lastClass? w.seen row.pair = some row.cls
  stored : ∀ row ∈ w.memory.rows, row.stored ∈ times

namespace Ranks

variable {w : Watched} {times : List Nat}

theorem length_le (h : w.Ranks times) : w.memory.rows.length ≤ w.memory.capacity := by
  rw [← List.length_map MatchRow.pair, h.pairs]
  exact List.length_take_le _ _

theorem get_eq (h : w.Ranks times) (hlasts : Lasts w.memory.ttl times) (hnow : now ∈ times)
    (tag name : String) :
    w.memory.get now tag name =
      match w.memory.rows.find? (MatchRow.isFor tag name) with
      | none => (none, w.memory)
      | some row =>
        (some row.cls, { w.memory with rows := row :: w.memory.others tag name }) := by
  unfold RecentMatches.get
  cases hfind : w.memory.rows.find? (MatchRow.isFor tag name) with
  | none => rfl
  | some row =>
    have hlive : w.memory.isLive now row = true :=
      decide_eq_true (hlasts now hnow _ (h.stored row (List.mem_of_find?_eq_some hfind)))
    exact if_pos hlive

/-- A pair is found if it is among the first, and then by its last class. -/
theorem get_fst_iff (h : w.Ranks times) (hlasts : Lasts w.memory.ttl times) (hnow : now ∈ times)
    (tag name : String) (cls : CountClass) :
    (w.memory.get now tag name).1 = some cls ↔
      lastClass? w.seen (tag, name) = some cls ∧
        (tag, name) ∈ (ranked (uses w.seen)).take w.memory.capacity := by
  rw [h.get_eq hlasts hnow, ← h.pairs, List.mem_map]
  cases hfind : w.memory.rows.find? (MatchRow.isFor tag name) with
  | none =>
    refine ⟨fun hfound => (Option.some_ne_none cls hfound.symm).elim, ?_⟩
    rintro ⟨-, row, hrow, hpair⟩
    obtain ⟨rfl, rfl⟩ := Prod.mk.inj hpair
    exact absurd (isFor_iff.mpr ⟨rfl, rfl⟩) (List.find?_eq_none.mp hfind row hrow)
  | some row =>
    have hrow := List.mem_of_find?_eq_some hfind
    obtain ⟨rfl, rfl⟩ := isFor_iff.mp (List.find?_some hfind)
    have hclass : lastClass? w.seen (row.tag, row.name) = some row.cls := h.classes row hrow
    rw [hclass]
    constructor
    · exact fun hfound => ⟨hfound, row, hrow, rfl⟩
    · exact fun hfound => hfound.1

theorem insert (h : w.Ranks times) (hnow : now ∈ times) (tag name : String) (cls : CountClass) :
    (w.call now (.insert tag name cls)).Ranks times where
  pairs := map_pair_toFront h.pairs ⟨tag, name, cls, now⟩
  classes row hrow := by
    show lastClass? (.stored (tag, name) cls :: w.seen) row.pair = some row.cls
    rw [lastClass?_stored]
    rcases List.mem_cons.mp (List.mem_of_mem_take hrow) with rfl | hother
    · exact if_pos rfl
    · obtain ⟨hmem, hnot⟩ := List.mem_filter.mp hother
      have hne : ¬(tag, name) = row.pair := by
        intro heq
        obtain ⟨htag, hname⟩ := Prod.mk.inj heq
        rw [isFor_iff.mpr ⟨htag.symm, hname.symm⟩] at hnot
        cases hnot
      rw [if_neg hne]
      exact h.classes row hmem
  stored row hrow := by
    rcases eq_or_mem_of_mem_insert hrow with rfl | hmem
    · exact hnow
    · exact h.stored row hmem

theorem get (h : w.Ranks times) (hlasts : Lasts w.memory.ttl times) (hnow : now ∈ times)
    (tag name : String) : (w.call now (.get tag name)).Ranks times where
  pairs := by
    dsimp only [call]
    rw [h.get_eq hlasts hnow]
    cases hfind : w.memory.rows.find? (MatchRow.isFor tag name) with
    | none => exact h.pairs
    | some row =>
      have hrow := List.mem_of_find?_eq_some hfind
      have hfor : row.isFor tag name = true := List.find?_some hfind
      obtain ⟨rfl, rfl⟩ := isFor_iff.mp hfor
      have hfits : (row :: w.memory.others row.tag row.name).length ≤ w.memory.capacity :=
        Nat.le_trans (length_others_lt hrow hfor) h.length_le
      have hfront := map_pair_toFront h.pairs row
      rw [List.take_of_length_le hfits] at hfront
      exact hfront
  classes row hrow := h.classes row (mem_of_mem_get hrow)
  stored row hrow := h.stored row (mem_of_mem_get hrow)

theorem clear (w : Watched) (times : List Nat) : (w.call now .clear).Ranks times where
  pairs := List.take_nil.symm
  classes _ hrow := absurd hrow List.not_mem_nil
  stored _ hrow := absurd hrow List.not_mem_nil

theorem call (h : w.Ranks times) (hlasts : Lasts w.memory.ttl times) (hnow : now ∈ times)
    (c : Call) : (w.call now c).Ranks times := by
  cases c with
  | insert tag name cls => exact h.insert hnow tag name cls
  | get tag name => exact h.get hlasts hnow tag name
  | clear => exact clear w times

end Ranks

/-! ## Runs -/

theorem take_frame (w : Watched) (calls : List (Nat × Call)) :
    (w.take calls).memory.capacity = w.memory.capacity ∧
      (w.take calls).memory.ttl = w.memory.ttl := by
  induction calls generalizing w with
  | nil => exact ⟨rfl, rfl⟩
  | cons timed rest ih =>
    obtain ⟨hcapacity, httl⟩ := w.call_frame timed.1 timed.2
    obtain ⟨hcapacity', httl'⟩ := ih (w.call timed.1 timed.2)
    exact ⟨hcapacity'.trans hcapacity, httl'.trans httl⟩

theorem length_take_le {w : Watched} (h : w.memory.rows.length ≤ w.memory.capacity)
    (calls : List (Nat × Call)) : (w.take calls).memory.rows.length ≤ w.memory.capacity := by
  induction calls generalizing w with
  | nil => exact h
  | cons timed rest ih =>
    have hcapacity := (w.call_frame timed.1 timed.2).1
    have hcall := length_call_le h timed.1 timed.2
    rw [← hcapacity] at hcall ⊢
    exact ih hcall

theorem Ranks.take {w : Watched} {times : List Nat} (h : w.Ranks times)
    (hlasts : Lasts w.memory.ttl times) {calls : List (Nat × Call)}
    (hcalls : ∀ timed ∈ calls, timed.1 ∈ times) : (w.take calls).Ranks times := by
  induction calls generalizing w with
  | nil => exact h
  | cons timed rest ih =>
    have httl := (w.call_frame timed.1 timed.2).2
    refine ih (h.call hlasts (hcalls timed List.mem_cons_self) timed.2) ?_
      fun timed' hrest => hcalls timed' (List.mem_cons_of_mem _ hrest)
    rw [httl]
    exact hlasts

theorem ranks_start (capacity ttl : Nat) (times : List Nat) : (start capacity ttl).Ranks times where
  pairs := List.take_nil.symm
  classes _ hrow := absurd hrow List.not_mem_nil
  stored _ hrow := absurd hrow List.not_mem_nil

theorem mem_uses_of_lastClass? {seen : List Event} {pair : MatchPair} {cls : CountClass}
    (h : lastClass? seen pair = some cls) : pair ∈ uses seen := by
  obtain ⟨event, hevent, hclass⟩ := List.exists_of_findSome?_eq_some h
  refine List.mem_filterMap.mpr ⟨event, hevent, ?_⟩
  cases event with
  | stored given cls' =>
    by_cases heq : given = pair
    · exact congrArg some heq
    · rw [Event.classFor?, if_neg heq] at hclass
      cases hclass
  | lookedUp given found => cases hclass
  | cleared => cases hclass

/-- After any calls there are no more rows than there is room for, and at least room for one.  While
the time to live lasts, a pair is found exactly if it was stored since everything was last
forgotten and fewer other pairs than there is room for were stored or found since it was last
stored or found itself, and it is found with the class it was last stored with.  Without time to
live it is never found, and its row is gone after it was looked up. -/
theorem take_remembers (capacity ttl : Nat) (calls : List (Nat × Call)) (now : Nat)
    (tag name : String) :
    let w := (start capacity ttl).take calls
    w.memory.size ≤ max capacity 1 ∧
      (Lasts ttl (now :: calls.map Prod.fst) → ∀ cls,
        ((w.memory.get now tag name).1 = some cls ↔
          lastClass? w.seen (tag, name) = some cls ∧
            (usedSince (tag, name) (uses w.seen)).card < max capacity 1)) ∧
      (ttl = 0 → (w.memory.get now tag name).1 = none ∧
        ∀ row, row ∈ (w.memory.get now tag name).2.rows ↔
          row ∈ w.memory.rows ∧ row.pair ≠ (tag, name)) := by
  intro w
  obtain ⟨hcapacity, httl⟩ := (start capacity ttl).take_frame calls
  refine ⟨length_take_le (Nat.zero_le _) calls, ?_, ?_⟩
  · intro hlasts cls
    have hranks : w.Ranks (now :: calls.map Prod.fst) :=
      (ranks_start capacity ttl _).take hlasts fun timed htimed =>
        List.mem_cons_of_mem now (List.mem_map_of_mem htimed)
    rw [hranks.get_fst_iff (by rwa [httl]) List.mem_cons_self, hcapacity]
    refine and_congr_right fun hclass => ?_
    exact mem_take_ranked (mem_uses_of_lastClass? hclass) _
  · intro hzero
    rw [get_of_ttl_zero (httl.trans hzero)]
    refine ⟨rfl, fun row => ?_⟩
    have hpair : row.isFor tag name = true ↔ row.pair = (tag, name) := by
      rw [isFor_iff]
      exact (Prod.mk.injEq ..) ▸ Iff.rfl
    show row ∈ w.memory.others tag name ↔ _
    unfold others
    rw [List.mem_filter, Bool.not_eq_true', ← Bool.not_eq_true, hpair]

/-- With room for two, the pair that was found stays and the one that was left alone goes. -/
theorem take_remembers_found :
    let calls : List (Nat × Call) :=
      [(0, .insert "CN" "a.cn" .domain), (1, .insert "CN" "b.cn" .keyword), (2, .get "CN" "a.cn"),
        (2, .get "US" "a.cn"), (3, .insert "US" "c.us" .domain)]
    let w := (start 2 300).take calls
    Lasts 300 (4 :: calls.map Prod.fst) ∧
      (w.memory.get 4 "CN" "a.cn").1 = some .domain ∧ (w.memory.get 4 "CN" "b.cn").1 = none := by
  intro calls w
  have hlasts : Lasts 300 (4 :: calls.map Prod.fst) := by
    unfold Lasts
    decide
  obtain ⟨-, hfound, -⟩ := take_remembers 2 300 calls 4 "CN" "a.cn"
  obtain ⟨-, hgone, -⟩ := take_remembers 2 300 calls 4 "CN" "b.cn"
  refine ⟨hlasts, (hfound hlasts .domain).mpr (by decide +kernel), ?_⟩
  rw [Option.eq_none_iff_forall_ne_some]
  intro cls hcls
  have hfew := ((hgone hlasts cls).mp hcls).2
  revert hfew
  decide +kernel

end Watched

end RecentMatches

end TagRules
