import TagRules.Proofs.Net.NetworkText
import TagRules.Proofs.Rules.CanonicalForm
import TagRules.Proofs.Rules.Union

/-
  A listing of networks can be read again as the lines of a table.

  A listed network is a line that says just that network, for any tag: the whole line is
  tried first, it is a network, and nothing in it is a blank or begins a comment
  (`Line.readAll_written`).  So listed networks are read as themselves, none is skipped
  (`RuleSet.ofLines_written`), and there is nothing left to sort or to drop in networks
  that come from a table (`NetworkRules.sort_foldl_self`).
-/

namespace TagRules

open Net Text

namespace Line

theorem strip_write (n : Network) : strip n.write = n.write := by
  rw [strip_eq_trim n.sharp_notMem_write, n.trim_write]

theorem said_written (nets : List Network) :
    said (nets.map Network.write) = nets.map Network.write := by
  have hne : ∀ n : Network, n.write ≠ [] := fun n => List.ne_nil_of_mem n.slash_mem_write
  induction nets with
  | nil => rfl
  | cons n rest ih =>
    have hsaid : said [n.write] = [n.write] := by simp [said, strip_write, hne]
    rw [List.map_cons, said_cons, ih, hsaid]
    rfl

theorem readNetwork_write (tag : String) (n : Network) :
    readNetwork tag n.write = entry n.truncate := by
  unfold readNetwork
  rw [n.ofRule?_write]

theorem readAll_written (tag : String) (nets : List Network) :
    readAll (readNetwork tag) (nets.map Network.write) =
      nets.map fun n => entry n.truncate := by
  rw [readAll_eq_map_said, said_written, List.map_map]
  exact List.map_congr_left fun n _ => readNetwork_write tag n

theorem entries_map_entry {α β : Type} (f : α → β) (xs : List α) :
    entries (xs.map fun x => entry (f x)) = xs.map f := by
  unfold entries
  rw [List.filterMap_map, ← List.filterMap_eq_map]
  rfl

theorem skipped_map_entry {α β : Type} (f : α → β) (xs : List α) :
    skipped (xs.map fun x => entry (f x)) = 0 := by
  unfold skipped
  rw [List.countP_map, List.countP_eq_zero]
  exact fun _ _ => nofun

end Line

namespace NetworkRules

theorem sort_foldl_self {rules : NetworkRules} (hs : rules.isSorted = true)
    (ha : Arranged rules.toList) (ht : AllTruncated rules.toList) :
    (rules.toList.foldl add empty).sort.1 = rules := by
  have hadded : (rules.toList.foldl add empty).nets = rules.nets := by
    refine Array.toList_inj.mp ?_
    have h := toList_foldl rules.toList empty
    rw [ht.map_truncate] at h
    exact h
  have hsort := sort_eq_self hs ha ht (rules.toList.foldl add empty).isSorted
  rw [← hadded] at hsort
  exact congrArg Prod.fst hsort

end NetworkRules

namespace RuleSet

theorem ofLines_written {nets : List Network} (ht : AllTruncated nets) (tag : String) :
    ofLines .network tag (nets.map Network.write) =
      (network (nets.foldl NetworkRules.add NetworkRules.empty).sort.1, 0) := by
  unfold ofLines
  simp only [Line.readAll_written, Line.entries_map_entry, Line.skipped_map_entry,
    ht.map_truncate]

/-- The full listing of the networks that some lines give a table can be used as the lines of any
table: it gives the same networks, and nothing in it is skipped.  Each of its entries is a network
of the table as it is written, and names that network and no other. -/
theorem ofLines_listing (tag other : String) (lines : List (List Char)) :
    ∃ rules texts, (ofLines .network tag lines).1 = network rules ∧
      (network rules).listing 0 = .entries texts ∧
      texts = rules.toList.map toString ∧
      (∀ n ∈ rules.toList, Network.ofRule? (toString n).toList = some n) ∧
      ofLines .network other (texts.map String.toList) = (network rules, 0) := by
  let nets := Line.entries (Line.readAll (Line.readNetwork tag) lines)
  let filled := nets.foldl NetworkRules.add NetworkRules.empty
  let rules := filled.sort.1
  have hs : rules.isSorted = true := NetworkRules.isSorted_sort filled
  have ha : Arranged rules.toList := NetworkRules.sort_arranged NetworkRules.arranged_foldl
  have ht : AllTruncated rules.toList := by
    have hrep : Represents nets filled.toList := by
      rw [NetworkRules.toList_foldl]
      exact represents_map nets
    exact (NetworkRules.sort_represents hrep).allTruncated
  have hlines : (rules.toList.map toString).map String.toList = rules.toList.map Network.write := by
    rw [List.map_map]
    exact List.map_congr_left fun n _ => String.toList_ofList
  refine ⟨rules, rules.toList.map toString, rfl, rfl, rfl, ?_, ?_⟩
  · intro n hn
    have hwrite : (toString n).toList = n.write := String.toList_ofList
    rw [hwrite, n.ofRule?_write, ht n hn]
  · rw [hlines, ofLines_written ht, NetworkRules.sort_foldl_self hs ha ht]

/-- Of a network for the tag, one for another tag and a line that is none, the first is stored, and
what is listed gives it to the table of the other tag. -/
theorem ofLines_listing_stored :
    let lines := ["LAN:10.1.2.3/8 # ten".toList, "CN:2001:db8::/32".toList, "none".toList]
    let listed := ["10.0.0.0/8"]
    (ofLines .network "LAN" lines).1.toList = listed ∧ (ofLines .network "LAN" lines).2 = 1 ∧
      ofLines .network "CN" (listed.map String.toList) =
        ((ofLines .network "LAN" lines).1, 0) := by
  intro lines listed
  obtain ⟨rules, texts, hrules, -, htexts, -, hread⟩ := ofLines_listing "LAN" "CN" lines
  have hlisted : (ofLines .network "LAN" lines).1.toList = listed := by decide +kernel
  refine ⟨hlisted, by decide +kernel, ?_⟩
  rw [hrules] at hlisted ⊢
  rw [← hlisted, show (network rules).toList = texts from htexts.symm]
  exact hread

end RuleSet

end TagRules
