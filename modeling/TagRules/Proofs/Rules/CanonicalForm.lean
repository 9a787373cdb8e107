import Mathlib.Data.List.Induction
import Mathlib.Data.List.Perm.Basic
import TagRules.Proofs.Net.BlockOrder
import TagRules.Proofs.Rules.NetworkSearch

/-
  Sorted networks have one form, however they were brought together.

  Networks are begun with none or with a list and are then added and sorted in any order.
  Every sort drops what it finds inside something else, so a network that comes later never
  meets those dropped before.  It makes no difference:
    1. networks that are arranged and represent some others are the outermost of those
       (`Represents.mem_iff_isOutermost`), in strict order (`Arranged.increasing`), and no
       other list is (`Represents.eq_of_same`);
    2. `Accounts` says that the networks in the making represent those supplied so far and
       that none is missing in the counts.  Every step keeps it (`Accounts.apply`), so every
       run does (`Accounts.run`).
  `run_sort_canonical` is what follows for a run with a sort at its end.
-/

namespace TagRules

open Net

namespace Net.Network

/-- Every address of `b` is one of `a`, and not the other way round. -/
def StrictlyCovers (a b : Network) : Prop := a.covers b = true ∧ b.covers a = false

/-- No address is in both networks. -/
def IsDisjoint (a b : Network) : Prop :=
  ∀ x : Address, ¬(a.covers (host x) = true ∧ b.covers (host x) = true)

end Net.Network

namespace Arranged

variable {nets : List Network}

/-- Every member comes strictly before the later ones, which it would cover if it were the same. -/
theorem increasing (h : Arranged nets) : nets.Pairwise fun a b => a.order b = .lt := by
  refine h.ordered.imp₂ ?_ h.disjoint
  intro a b hle hnot
  cases horder : a.order b with
  | lt => rfl
  | eq =>
    have hself : a.covers b = true := by
      rw [← Network.covers_truncate_right, ← Network.order_eq_iff.mp horder,
        Network.covers_truncate_right]
      exact a.covers_refl
    rw [hnot] at hself
    cases hself
  | gt =>
    unfold Network.le at hle
    rw [horder] at hle
    cases hle

theorem nodup (h : Arranged nets) : nets.Nodup := by
  refine h.increasing.imp ?_
  rintro a _ hlt rfl
  rw [Network.order_eq_iff.mpr rfl] at hlt
  cases hlt

theorem pairwise_isDisjoint (h : Arranged nets) : nets.Pairwise Network.IsDisjoint := by
  refine List.pairwise_iff_getElem.mpr ?_
  intro i j hi hj hij x hx
  have heq := h.index_eq_of_common hi hj hx.1 hx.2
  omega

end Arranged

/-- The network is one of those given and is in no broader one of them. -/
def IsOutermost (nets : List Network) (n : Network) : Prop :=
  n ∈ nets ∧ ∀ k ∈ nets, ¬k.StrictlyCovers n

namespace Represents

variable {supplied kept : List Network}

/-- Of networks that are arranged and represent those supplied, exactly the outermost are kept. -/
theorem mem_iff_isOutermost (h : Represents supplied kept) (ha : Arranged kept) {n : Network} :
    n ∈ kept ↔ IsOutermost (supplied.map Network.truncate) n := by
  constructor
  · intro hn
    refine ⟨List.mem_map.mpr (h.given n hn), ?_⟩
    intro k hk ⟨hkn, hnk⟩
    -- What was kept for `k` covers `n` as well, so it is `n`.
    obtain ⟨m, hm, rfl⟩ := List.mem_map.mp hk
    obtain ⟨c, hc, hcm⟩ := h.covered m hm
    rw [Network.covers_truncate_left] at hkn
    rw [ha.eq_of_covers hc hn (Network.covers_trans hcm hkn)] at hcm
    rw [Network.covers_truncate_right, hcm] at hnk
    cases hnk
  · rintro ⟨hn, hmax⟩
    obtain ⟨m, hm, rfl⟩ := List.mem_map.mp hn
    obtain ⟨c, hc, hcm⟩ := h.covered m hm
    have hmc : m.covers c = true := by
      rw [← Network.covers_truncate_left, ← Bool.not_eq_false]
      -- Otherwise `c` would be a broader one, and it was supplied.
      intro hnot
      refine hmax c (List.mem_map.mpr (h.given c hc)) ⟨?_, hnot⟩
      rwa [Network.covers_truncate_right]
    rw [Network.truncate_eq_of_covers hmc hcm, h.allTruncated c hc]
    exact hc

/-- Only one arranged list represents some networks, in whatever order and how often they were
supplied. -/
theorem eq_of_same {supplied' kept' : List Network} (h : Represents supplied kept)
    (ha : Arranged kept) (h' : Represents supplied' kept') (ha' : Arranged kept')
    (hsame : ∀ n, n ∈ supplied.map Network.truncate ↔ n ∈ supplied'.map Network.truncate) :
    kept = kept' := by
  have hmem : ∀ n, n ∈ kept ↔ n ∈ kept' := by
    intro n
    rw [h.mem_iff_isOutermost ha, h'.mem_iff_isOutermost ha']
    simp only [IsOutermost, hsame]
  have hantisymm : ∀ a b, a ∈ kept → b ∈ kept' → a.le b = true → b.le a = true → a = b := by
    intro a b hka hkb hab hba
    rw [← h.allTruncated a hka, ← h'.allTruncated b hkb]
    exact Network.le_antisymm hab hba
  exact List.Perm.eq_of_pairwise hantisymm ha.ordered ha'.ordered
    ((List.perm_ext_iff_of_nodup ha.nodup ha'.nodup).mpr hmem)

end Represents

namespace NetworkRules

theorem arrange_eq_self {nets : List Network} (ha : Arranged nets) (ht : AllTruncated nets) :
    arrange nets = nets :=
  (Represents.self ht).arrange.eq_of_same (arrange_arranged nets) (.self ht) ha fun _ => Iff.rfl

/-! ## Networks in the making -/

/-- How networks are begun. -/
inductive Start where
  | empty
  | ofList (nets : List Network)

/-- What is done to networks after that. -/
inductive Step where
  | add (n : Network)
  | addRule (cs : List Char)
  | sort

/-- Networks in the making, and how many were dropped on the way. -/
structure Making where
  rules : NetworkRules
  dropped : Nat

namespace Start

/-- The networks begun.  Those of a list are sorted at once, and some may be dropped. -/
def making : Start → Making
  | empty => ⟨NetworkRules.empty, 0⟩
  | ofList nets =>
    ⟨NetworkRules.ofList nets, (NetworkRules.sort ⟨(nets.map Network.truncate).toArray, false⟩).2⟩

/-- The networks supplied at the start. -/
def supplied : Start → List Network
  | empty => []
  | ofList nets => nets

end Start

namespace Step

/-- The networks after a step.  A text that names no network changes nothing. -/
def apply (making : Making) : Step → Making
  | add n => ⟨making.rules.add n, making.dropped⟩
  | addRule cs => ⟨(making.rules.addRule? cs).getD making.rules, making.dropped⟩
  | sort => ⟨making.rules.sort.1, making.dropped + making.rules.sort.2⟩

/-- The network that a step supplies, if it supplies one. -/
def supplied : Step → List Network
  | add n => [n]
  | addRule cs => (Network.ofRule? cs).toList
  | sort => []

end Step

def run (start : Start) (steps : List Step) : Making := steps.foldl Step.apply start.making

/-- The networks supplied at the start and by the steps. -/
def supplied (start : Start) (steps : List Step) : List Network :=
  start.supplied ++ steps.flatMap Step.supplied

/-- What networks in the making have to do with those supplied. -/
structure Accounts (supplied : List Network) (making : Making) : Prop where
  represents : Represents supplied making.rules.toList
  arranged : making.rules.isSorted = true → Arranged making.rules.toList
  counted : making.dropped + making.rules.size = supplied.length

theorem size_sort (rules : NetworkRules) : rules.sort.2 + rules.sort.1.size = rules.size := by
  unfold sort
  split
  · exact Nat.zero_add _
  · exact Nat.sub_add_cancel (length_arrange_le rules.nets.toList)

namespace Accounts

variable {given : List Network} {making : Making}

theorem add (h : Accounts given making) (n : Network) :
    Accounts (given ++ [n]) ⟨making.rules.add n, making.dropped⟩ where
  represents := by
    have hpush : (making.rules.add n).toList = making.rules.toList ++ [n.truncate] :=
      Array.toList_push
    rw [hpush]
    exact h.represents.push n
  arranged hsorted := nomatch hsorted
  counted := by
    have hpush : (making.rules.add n).size = making.rules.size + 1 := Array.size_push _
    rw [List.length_append, List.length_singleton, hpush, ← Nat.add_assoc, h.counted]

theorem sort (h : Accounts given making) :
    Accounts given ⟨making.rules.sort.1, making.dropped + making.rules.sort.2⟩ where
  represents := sort_represents h.represents
  arranged _ := sort_arranged h.arranged
  counted := by
    rw [Nat.add_assoc, size_sort]
    exact h.counted

theorem apply (h : Accounts given making) (step : Step) :
    Accounts (given ++ step.supplied) (step.apply making) := by
  cases step with
  | add n => exact h.add n
  | addRule cs =>
    simp only [Step.apply, Step.supplied, addRule?]
    cases Network.ofRule? cs with
    | none => simpa using h
    | some n => exact h.add n
  | sort =>
    simp only [Step.apply, Step.supplied, List.append_nil]
    exact h.sort

theorem start (start : Start) : Accounts start.supplied start.making := by
  cases start with
  | empty => exact ⟨.nil, fun _ => .nil, rfl⟩
  | ofList nets =>
    refine ⟨(represents_map nets).arrange, fun _ => arrange_arranged _, ?_⟩
    show (NetworkRules.sort ⟨(nets.map Network.truncate).toArray, false⟩).2 +
      (NetworkRules.sort ⟨(nets.map Network.truncate).toArray, false⟩).1.size = nets.length
    rw [size_sort]
    simp [size]

/-- By induction on the steps, the last one first: `Accounts.apply` is what a step does. -/
theorem run (start : Start) (steps : List Step) :
    Accounts (supplied start steps) (run start steps) := by
  induction steps using List.reverseRecOn with
  | nil =>
    unfold supplied
    rw [List.flatMap_nil, List.append_nil]
    exact .start start
  | append_singleton steps step ih =>
    have hsupplied : supplied start (steps ++ [step]) = supplied start steps ++ step.supplied := by
      simp [supplied]
    rw [hsupplied, NetworkRules.run, List.foldl_append]
    exact ih.apply step

theorem run_sort (start : Start) (steps : List Step) :
    Accounts (supplied start steps) (NetworkRules.run start (steps ++ [.sort])) ∧
      (NetworkRules.run start (steps ++ [.sort])).rules.isSorted = true := by
  unfold NetworkRules.run
  rw [List.foldl_append]
  exact ⟨(Accounts.run start steps).sort, isSorted_sort _⟩

end Accounts

theorem eq_of_toList {rules rules' : NetworkRules} (h : rules.isSorted = true)
    (h' : rules'.isSorted = true) (heq : rules.toList = rules'.toList) : rules = rules' := by
  obtain ⟨nets, isSorted⟩ := rules
  obtain ⟨nets', isSorted'⟩ := rules'
  obtain rfl : nets = nets' := Array.toList_inj.mp heq
  rw [show isSorted = isSorted' from h.trans h'.symm]

theorem sort_eq_self {rules : NetworkRules} (hs : rules.isSorted = true)
    (ha : Arranged rules.toList) (ht : AllTruncated rules.toList) (isSorted : Bool) :
    sort ⟨rules.nets, isSorted⟩ = (rules, 0) := by
  obtain ⟨nets, _⟩ := rules
  obtain rfl : _ = true := hs
  have harrange : arrange nets.toList = nets.toList := arrange_eq_self ha ht
  cases isSorted with
  | true => rfl
  | false => simp [sort, harrange]

/-- Networks that were begun in any way, added and sorted in any order and sorted at last are in
strict order, have no address in common and are the outermost of those supplied.  Whatever else
supplies the same networks, in another order, more often or with other sorts in between, leads to
them as well.  There is nothing to drop in them, and each one supplied is there or was counted when
it was dropped. -/
theorem run_sort_canonical (start : Start) (steps : List Step) :
    let made := run start (steps ++ [.sort])
    let given := (supplied start steps).map Network.truncate
    (made.rules.toList.Pairwise fun a b => a.order b = .lt) ∧
      made.rules.toList.Pairwise Network.IsDisjoint ∧
      (∀ n, n ∈ made.rules.toList ↔ IsOutermost given n) ∧
      (∀ start' steps', (∀ n, n ∈ (supplied start' steps').map Network.truncate ↔ n ∈ given) →
        (run start' (steps' ++ [.sort])).rules = made.rules) ∧
      (∀ isSorted, sort ⟨made.rules.nets, isSorted⟩ = (made.rules, 0)) ∧
      made.dropped + made.rules.size = given.length := by
  intro made given
  obtain ⟨haccounts, hsorted⟩ := Accounts.run_sort start steps
  have ha : Arranged made.rules.toList := haccounts.arranged hsorted
  refine ⟨ha.increasing, ha.pairwise_isDisjoint,
    fun n => haccounts.represents.mem_iff_isOutermost ha, ?_,
    sort_eq_self hsorted ha haccounts.represents.allTruncated, ?_⟩
  · intro start' steps' hsame
    obtain ⟨haccounts', hsorted'⟩ := Accounts.run_sort start' steps'
    exact eq_of_toList hsorted' hsorted (haccounts'.represents.eq_of_same
      (haccounts'.arranged hsorted') haccounts.represents ha hsame)
  · rw [haccounts.counted, List.length_map]

end NetworkRules

end TagRules
