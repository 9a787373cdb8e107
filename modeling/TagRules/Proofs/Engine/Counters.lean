import TagRules.Engine.Query
import TagRules.Proofs.Engine.Operations

/-
  What is counted.

  Counting adds to one counter and leaves all others as they are (`value_increment`), so the
  order in which things are counted makes no difference (`increment_comm`).  A
  question that is answered by `countIf` counts one for its name if the answer is yes, and
  changes nothing at all if it is no (`countIf_counts`).
-/

namespace TagRules

namespace Counters

theorem ofClass_withClass (c : Counters) (cls : CountClass) (m : NamedCounters) (k : CountClass) :
    (c.withClass cls m).ofClass k = if k = cls then m else c.ofClass k := by
  cases cls <;> cases k <;> rfl

theorem ext_getElem? {c d : Counters}
    (h : ∀ (k : CountClass) (name : String), (c.ofClass k)[name]? = (d.ofClass k)[name]?) :
    c = d := by
  have hclass : ∀ k, c.ofClass k = d.ofClass k := fun k => Std.ExtTreeMap.ext_getElem? (h k)
  cases c
  cases d
  congr 1
  · exact hclass .domain
  · exact hclass .keyword
  · exact hclass .network
  · exact hclass .metrics

theorem getElem?_increment (c : Counters) (cls : CountClass) (name : String) (delta : UInt64)
    (k : CountClass) (other : String) :
    ((c.increment cls name delta).ofClass k)[other]? =
      if k = cls ∧ other = name then some (c.value k other + delta)
      else (c.ofClass k)[other]? := by
  unfold increment
  rw [ofClass_withClass]
  by_cases hk : k = cls
  · rw [if_pos hk, Std.ExtTreeMap.getElem?_insert, hk]
    by_cases hname : other = name
    · simp [hname]
    · have hne : ¬compare name other = .eq := fun h => hname (Std.compare_eq_iff_eq.mp h).symm
      simp [hname, hne]
  · simp [hk]

theorem value_increment (c : Counters) (cls : CountClass) (name : String) (delta : UInt64)
    (k : CountClass) (other : String) :
    (c.increment cls name delta).value k other =
      c.value k other + if k = cls ∧ other = name then delta else 0 := by
  rw [value, getElem?_increment]
  split
  · rfl
  · simp [value]

theorem increment_comm (c : Counters) (cls cls' : CountClass) (name name' : String)
    (delta delta' : UInt64) :
    (c.increment cls name delta).increment cls' name' delta' =
      (c.increment cls' name' delta').increment cls name delta := by
  apply ext_getElem?
  intro k other
  simp only [getElem?_increment, value_increment]
  by_cases h : k = cls ∧ other = name
  · by_cases h' : k = cls' ∧ other = name'
    · simp only [if_pos h, if_pos h']
      rw [UInt64.add_assoc, UInt64.add_comm delta, UInt64.add_assoc]
    · simp only [if_pos h, if_neg h', UInt64.add_zero]
  · by_cases h' : k = cls' ∧ other = name'
    · simp only [if_neg h, if_pos h', UInt64.add_zero]
    · simp only [if_neg h, if_neg h']

end Counters

namespace Engine

/-- An answer of yes counts one under a class and a name and changes nothing else; an answer of no
changes nothing. -/
structure Counts (e : Engine) (cls : CountClass) (name : String) (answer : Bool × Engine) :
    Prop where
  yes : answer.1 = true → ∀ k other, answer.2.counters.value k other =
    e.counters.value k other + if k = cls ∧ other = name then 1 else 0
  no : answer.1 = false → answer.2 = e

theorem countIf_counts (e : Engine) (hit : Bool) (cls : CountClass) (name : String) :
    Counts e cls name (e.countIf hit cls name) := by
  cases hit with
  | true => exact ⟨fun _ k other => e.counters.value_increment cls name 1 k other, nofun⟩
  | false => exact ⟨nofun, fun _ => rfl⟩

end Engine

end TagRules
