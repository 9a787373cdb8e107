import TagRules.Proofs.Net.Blocks

/-
  The order of networks as a comparison, and what it means for lists.

  Networks are compared by their first addresses, then the broader first.  Two of them
  compare as equal only if they are one block (`order_eq_iff`).  Along a list in this order a
  block is followed at once by everything inside it (`filter_covers_eq_takeWhile`): once
  something comes that is not inside it, nothing that comes later is.  So sorting may look
  back at one network only, and a search may leave out half of a list.

  `order_of_blocks` brings together what sorting and searching take from the order.
-/

namespace TagRules.Net.Network

theorem le_iff_order_ne_gt {a b : Network} : a.le b = true ↔ a.order b ≠ .gt := bne_iff_ne

theorem order_swap (a b : Network) : b.order a = (a.order b).swap := by
  unfold order Address.order
  rw [Ordering.swap_then, Ordering.swap_then, Nat.compare_swap, Nat.compare_swap]
  cases a.base.family <;> cases b.base.family <;> rfl

theorem order_eq_iff {a b : Network} : a.order b = .eq ↔ a.truncate = b.truncate := by
  have hfamily : a.family.order b.family = .eq ↔ a.family = b.family := by
    cases a.family <;> cases b.family <;> decide
  unfold order Address.order
  rw [Ordering.then_eq_eq, Ordering.then_eq_eq, Nat.compare_eq_eq, Nat.compare_eq_eq,
    truncate_eq_iff, and_assoc]
  exact and_congr_left fun _ => hfamily

/-- In a list that is in order, those inside its first network come before all that are not. -/
theorem filter_covers_eq_takeWhile {a : Network} {nets : List Network}
    (h : (a :: nets).Pairwise fun x y => x.order y ≠ .gt) :
    nets.filter a.covers = nets.takeWhile a.covers := by
  induction nets with
  | nil => rfl
  | cons x rest ih =>
    obtain ⟨hfirst, hnets⟩ := List.pairwise_cons.mp h
    obtain ⟨hx, hrest⟩ := List.pairwise_cons.mp hnets
    by_cases hc : a.covers x = true
    · have hlater : (a :: rest).Pairwise fun x y => x.order y ≠ .gt :=
        List.pairwise_cons.mpr ⟨fun y hy => hfirst y (List.mem_cons_of_mem x hy), hrest⟩
      rw [List.filter_cons_of_pos hc, List.takeWhile_cons_of_pos hc, ih hlater]
    · -- Something later inside `a` would have `x` between itself and `a`.
      have hnone : rest.filter a.covers = [] := by
        apply List.filter_eq_nil_iff.mpr
        intro y hy hcy
        exact hc (covers_of_between (le_iff_order_ne_gt.mpr (hfirst x List.mem_cons_self))
          (le_iff_order_ne_gt.mpr (hx y hy)) hcy)
      rw [List.filter_cons_of_neg hc, List.takeWhile_cons_of_neg hc, hnone]

/-- The order of networks is total: two networks compare the opposite way when they change places,
it is transitive, and of networks written with their first addresses it tells any two apart.  What
stands between a network and something inside it is inside it as well, and a network does not come
after what it covers.  So a network in a list that is in order is followed at once by all that is
inside it. -/
theorem order_of_blocks :
    (∀ a b : Network, b.order a = (a.order b).swap) ∧
      (∀ a b : Network, a.order b ≠ .gt ∨ b.order a ≠ .gt) ∧
      (∀ a b c : Network, a.order b ≠ .gt → b.order c ≠ .gt → a.order c ≠ .gt) ∧
      (∀ a b : Network, a.order b = .eq ↔ a.truncate = b.truncate) ∧
      (∀ a b : Network, a.truncate = a → b.truncate = b → (a.order b = .eq ↔ a = b)) ∧
      (∀ a x b : Network, a.order x ≠ .gt → x.order b ≠ .gt → a.covers b = true →
        a.covers x = true) ∧
      (∀ a b : Network, a.covers b = true → a.order b ≠ .gt) ∧
      ∀ (a : Network) (nets : List Network), (a :: nets).Pairwise (fun x y => x.order y ≠ .gt) →
        nets.filter a.covers = nets.takeWhile a.covers := by
  simp only [← le_iff_order_ne_gt]
  refine ⟨order_swap, ?_, fun _ _ _ => le_trans, fun _ _ => order_eq_iff, ?_,
    fun _ _ _ => covers_of_between, fun _ _ => le_of_covers, ?_⟩
  · intro a b
    rw [← Bool.or_eq_true]
    exact le_total a b
  · intro a b ha hb
    rw [order_eq_iff, ha, hb]
  · intro a nets h
    apply filter_covers_eq_takeWhile
    simpa only [le_iff_order_ne_gt] using h

/-- Of three IPv4 networks the middle one is inside the first, which covers the last; the networks
of the other family come after all of them. -/
theorem order_of_blocks_whole :
    let whole : Network := ⟨⟨.v4, 0, by decide⟩, 0, by decide⟩
    let ten : Network := ⟨⟨.v4, 0x0A000000, by decide⟩, 8, by decide⟩
    let inner : Network := ⟨⟨.v4, 0x0A010000, by decide⟩, 16, by decide⟩
    let other : Network := ⟨⟨.v6, 0, by decide⟩, 0, by decide⟩
    whole.covers ten = true ∧ whole.order inner ≠ .gt ∧ (ten.order inner = .eq ↔ ten = inner) ∧
      [ten, inner, other].filter whole.covers = [ten, inner, other].takeWhile whole.covers := by
  intro whole ten inner other
  obtain ⟨-, -, htrans, -, heq, hbetween, hcovers, hlist⟩ := order_of_blocks
  refine ⟨hbetween whole ten inner (by decide) (by decide) (by decide), ?_,
    heq ten inner (by decide) (by decide), hlist whole _ (by decide)⟩
  exact htrans whole ten inner (hcovers whole ten (by decide)) (hcovers ten inner (by decide))

end TagRules.Net.Network
