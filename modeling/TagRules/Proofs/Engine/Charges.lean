import TagRules.Proofs.Engine.ReverseQueries
import TagRules.Proofs.Engine.WellFormed

/-
  What a question counts.

  A question about one tag is counted once if the answer is yes, and not at all if it is no
  (`isYes_answer`).  `charge?` says from the engine as it is before the question what it will be
  counted under, by the rules or by what is remembered of them, and `misses` what a reverse query
  counts besides.  This is all that a question does to the counters, and it does the same to the
  second set of counters (`Charged.afterQuery`).
-/

namespace TagRules

open Net

namespace Counters

/-- The counters after one was added to each of some of them in order. -/
def charged (c : Counters) (charges : List (CountClass × String)) : Counters :=
  charges.foldl (fun c charge => c.increment charge.1 charge.2 1) c

theorem charged_append (c : Counters) (charges more : List (CountClass × String)) :
    c.charged (charges ++ more) = (c.charged charges).charged more := List.foldl_append

theorem value_charged_toList (c : Counters) (charge : Option (CountClass × String))
    (k : CountClass) (other : String) :
    (c.charged charge.toList).value k other =
      c.value k other + if charge = some (k, other) then 1 else 0 := by
  cases charge with
  | none => simp [charged]
  | some charge =>
    obtain ⟨cls, name⟩ := charge
    rw [show c.charged (some (cls, name)).toList = c.increment cls name 1 from rfl,
      value_increment]
    simp only [Option.some.injEq, Prod.mk.injEq, eq_comm]

end Counters

namespace Engine

/-! ## Answers -/

/-- What a question is answered with: whether something matches, or the address that stands in for
a client. -/
inductive Answer where
  | truth (yes : Bool)
  | address (found : Option Address)
  deriving DecidableEq

def Answer.isYes : Answer → Bool
  | truth yes => yes
  | address found => found.isSome

def answer (e : Engine) : Query → Answer
  | .geoNetwork tag n => .truth (e.matchGeoNetwork tag n).1
  | .geoAddress tag a => .truth (e.matchGeoAddress tag a).1
  | .tableNet tag n => .truth (e.matchTableNet tag n).1
  | .tableNetText tag text => .truth (e.matchTableNetText tag text).1
  | .net tag n => .truth (e.matchNet tag n).1
  | .netText tag text => .truth (e.matchNetText tag text).1
  | .site kind tag name => .truth (e.matchSite kind tag name).1
  | .keyword tag name => .truth (e.matchKeyword tag name).1
  | .client tag client => .address (e.resolveClient tag client).1
  | .name now tag name => .truth (e.matchName now tag name).1
  | .tags now tags name reverse => .truth (e.matchTags now tags name reverse).1

def Query.tag? : Query → Option String
  | .geoNetwork tag _ | .geoAddress tag _ | .tableNet tag _ | .tableNetText tag _ | .net tag _
  | .netText tag _ | .site _ tag _ | .keyword tag _ | .client tag _ | .name _ tag _ => some tag
  | .tags .. => none

/-! ## Charges -/

def chargeIf (hit : Bool) (cls : CountClass) (name : String) : Option (CountClass × String) :=
  if hit then some (cls, name) else none

/-- What a question will be counted under, if it is answered by something.  Networks, domain rules
and keywords are counted under the tag, and addresses for clients under a metric.  A name counts
under the class that is remembered or, if none is, under that of the first rules that match. -/
def charge? (e : Engine) : Query → Option (CountClass × String)
  | .geoNetwork tag n => chargeIf (e.geoCovers (Tag.normalize tag) n) .network (Tag.normalize tag)
  | .geoAddress tag a =>
    chargeIf (e.geoCovers (Tag.normalize tag) (Network.host a)) .network (Tag.normalize tag)
  | .tableNet tag n => chargeIf (e.tableCovers (Tag.normalize tag) n) .network (Tag.normalize tag)
  | .tableNetText tag text =>
    chargeIf ((Network.ofRule? text.toList).any fun n => e.tableCovers (Tag.normalize tag) n)
      .network (Tag.normalize tag)
  | .net tag n =>
    chargeIf (e.tableCovers (Tag.normalize tag) n || e.geoCovers (Tag.normalize tag) n) .network
      (Tag.normalize tag)
  | .netText tag text =>
    chargeIf ((Network.ofRule? text.toList).any fun n =>
      e.tableCovers (Tag.normalize tag) n || e.geoCovers (Tag.normalize tag) n) .network
      (Tag.normalize tag)
  | .site kind tag name =>
    chargeIf ((e.geoSite.get? (Tag.normalize tag)).any fun set => set.matchesKind kind name) .domain
      (Tag.normalize tag)
  | .keyword tag name =>
    chargeIf ((e.tables.get? .keyword (Tag.normalize tag)).any fun t => t.isMatch name) .keyword
      (Tag.normalize tag)
  | .client tag client =>
    chargeIf ((e.table? .client tag).bind fun t => resolveIn t.rules client).isSome .metrics
      clientMetric
  | .name now tag name =>
    (e.hit? now (Tag.normalize tag) name).map fun cls => (cls, Tag.normalize tag)
  | .tags now tags name _ =>
    (tags.find? fun tag => (e.matchName now tag name).1).bind fun tag =>
      (e.hit? now (Tag.normalize tag) name).map fun cls => (cls, Tag.normalize tag)

/-- What a question will be counted under for the tags that it passes. -/
def misses (e : Engine) : Query → List (CountClass × String)
  | .tags now tags name true =>
    (e.passed now name tags).map fun tag => (.domain, missName (Tag.normalize tag))
  | _ => []

/-- One was added to each of some counters, and to the same ones of the second set. -/
structure Charged (e e' : Engine) (charges : List (CountClass × String)) : Prop where
  counters : e'.counters = e.counters.charged charges
  sink : e'.sink = e.sink.map fun c => c.charged charges

namespace Charged

variable {e e' e'' : Engine} {charges more : List (CountClass × String)}

theorem refl (e : Engine) : Charged e e [] := ⟨rfl, (Option.map_id' ..).symm⟩

theorem trans (h : Charged e e' charges) (h' : Charged e' e'' more) :
    Charged e e'' (charges ++ more) where
  counters := by rw [h'.counters, h.counters, Counters.charged_append]
  sink := by
    rw [h'.sink, h.sink, Option.map_map]
    exact congrArg (e.sink.map ·) (funext fun c => (c.charged_append charges more).symm)

theorem count (e : Engine) (cls : CountClass) (name : String) :
    Charged e (e.count cls name) [(cls, name)] := ⟨rfl, rfl⟩

theorem withMemory (e : Engine) (recent : RecentMatches) : Charged e (e.withMemory recent) [] :=
  ⟨(refl e).counters, (refl e).sink⟩

theorem countIf (e : Engine) (hit : Bool) (cls : CountClass) (name : String) :
    Charged e (e.countIf hit cls name).2 (chargeIf hit cls name).toList := by
  cases hit with
  | true => exact count e cls name
  | false => exact refl e

theorem forNetText {query : Engine → String → Network → Bool × Engine} {tag text name : String}
    {cls : CountClass} {hit : Network → Bool}
    (h : ∀ n, Charged e (query e tag n).2 (chargeIf (hit n) cls name).toList) :
    Charged e (e.forNetText query tag text).2
      (chargeIf ((Network.ofRule? text.toList).any hit) cls name).toList := by
  unfold Engine.forNetText
  cases Network.ofRule? text.toList with
  | some n => exact h n
  | none => exact refl e

theorem resolveClient (e : Engine) (tag client : String) :
    Charged e (e.resolveClient tag client).2 (e.charge? (.client tag client)).toList := by
  rw [Engine.resolveClient, charge?]
  cases (e.table? .client tag).bind fun t => resolveIn t.rules client with
  | some a => exact count e .metrics clientMetric
  | none => exact refl e

theorem matchName (e : Engine) (now : Nat) (tag name : String) :
    Charged e (e.matchName now tag name).2 (e.charge? (.name now tag name)).toList := by
  rw [Engine.matchName, charge?]
  cases hhit : e.hit? now (Tag.normalize tag) name with
  | some cls =>
    obtain ⟨recent, heq⟩ := matchCanonical_of_hit hhit
    rw [heq]
    exact (withMemory e recent).trans (count _ cls (Tag.normalize tag))
  | none =>
    rw [matchCanonical_of_miss hhit]
    exact withMemory e _

theorem countMisses (e : Engine) (tags : List String) :
    Charged e (e.countMisses tags)
      (tags.map fun tag => (.domain, missName (Tag.normalize tag))) := by
  induction tags generalizing e with
  | nil => exact refl e
  | cons tag rest ih => exact (count e .domain (missName (Tag.normalize tag))).trans (ih _)

theorem matchFirst_plain (e : Engine) (now : Nat) (name : String) (tags : List String) :
    Charged e (e.matchFirst now name false tags).2
      (e.charge? (.tags now tags name false)).toList := by
  have hcounts := e.matchFirst_counts now name tags
  rw [charge?]
  cases hfind : tags.find? fun tag => (e.matchName now tag name).1 with
  | none =>
    rw [hfind] at hcounts
    exact ⟨hcounts.1, hcounts.2.trans (Option.map_id' ..).symm⟩
  | some tag =>
    rw [hfind] at hcounts
    obtain ⟨cls, hhit, hcounters, hsink⟩ := hcounts
    rw [Option.bind_some, hhit]
    exact ⟨hcounters, hsink⟩

theorem matchTags (e : Engine) (now : Nat) (tags : List String) (name : String) (reverse : Bool) :
    Charged e (e.matchTags now tags name reverse).2
      ((e.charge? (.tags now tags name reverse)).toList ++
        e.misses (.tags now tags name reverse)) := by
  have hplain := matchFirst_plain e now name tags
  unfold Engine.matchTags
  split
  · next hempty =>
    obtain rfl := List.isEmpty_iff.mp hempty
    cases reverse <;> exact refl e
  · cases reverse with
    | false =>
      unfold misses
      rw [List.append_nil]
      exact hplain
    | true =>
      rw [matchFirst_reverse]
      exact hplain.trans (countMisses _ (e.passed now name tags))

theorem of_tag (e : Engine) {q : Query} {tag : String} (h : q.tag? = some tag) :
    Charged e (e.afterQuery q) (e.charge? q).toList := by
  cases q with
  | tags now tags name reverse => cases h
  | geoNetwork tag n => exact countIf e ..
  | geoAddress tag a => exact countIf e ..
  | tableNet tag n => exact countIf e ..
  | tableNetText tag text => exact forNetText fun n => countIf e ..
  | net tag n => exact countIf e ..
  | netText tag text => exact forNetText fun n => countIf e ..
  | site kind tag name => exact countIf e ..
  | keyword tag name => exact countIf e ..
  | client tag client => exact resolveClient e tag client
  | name now tag name => exact matchName e now tag name

theorem afterQuery (e : Engine) (q : Query) :
    Charged e (e.afterQuery q) ((e.charge? q).toList ++ e.misses q) := by
  cases q with
  | tags now tags name reverse => exact matchTags e now tags name reverse
  | _ => exact (of_tag e rfl).trans (refl _)

theorem unchanged {e : Engine} {q : Query} {tag : String} (h : q.tag? = some tag)
    (hcharge : e.charge? q = none) :
    (e.afterQuery q).counters = e.counters ∧ (e.afterQuery q).sink = e.sink := by
  have hcharged := of_tag e h
  rw [hcharge] at hcharged
  exact ⟨hcharged.counters, hcharged.sink.trans (Option.map_id' ..)⟩

end Charged

/-! ## Answers and charges -/

theorem isSome_chargeIf (hit : Bool) (cls : CountClass) (name : String) :
    (chargeIf hit cls name).isSome = hit := by
  cases hit <;> rfl

theorem forNetText_fst {e : Engine} {query : Engine → String → Network → Bool × Engine}
    {tag text : String} {hit : Network → Bool} (h : ∀ n, (query e tag n).1 = hit n) :
    (e.forNetText query tag text).1 = (Network.ofRule? text.toList).any hit := by
  unfold forNetText
  cases Network.ofRule? text.toList with
  | some n => exact h n
  | none => rfl

/-- A question about one tag is answered yes exactly if there is something to count it under. -/
theorem isYes_answer (e : Engine) {q : Query} {tag : String} (h : q.tag? = some tag) :
    (e.answer q).isYes = (e.charge? q).isSome := by
  cases q with
  | tags now tags name reverse => cases h
  | geoNetwork tag n => exact (isSome_chargeIf ..).symm
  | geoAddress tag a => exact (isSome_chargeIf ..).symm
  | tableNet tag n => exact (isSome_chargeIf ..).symm
  | tableNetText tag text => exact (forNetText_fst fun n => rfl).trans (isSome_chargeIf ..).symm
  | net tag n => exact (isSome_chargeIf ..).symm
  | netText tag text => exact (forNetText_fst fun n => rfl).trans (isSome_chargeIf ..).symm
  | site kind tag name => exact (isSome_chargeIf ..).symm
  | keyword tag name => exact (isSome_chargeIf ..).symm
  | client tag client =>
    rw [answer, resolveClient_eq]
    exact (isSome_chargeIf ..).symm
  | name now tag name =>
    rw [answer, Answer.isYes, matchName_fst, charge?, Option.isSome_map]

end Engine

end TagRules
