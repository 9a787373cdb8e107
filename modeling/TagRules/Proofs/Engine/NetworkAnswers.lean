import TagRules.Proofs.Engine.Counters
import TagRules.Proofs.Rules.Union

/-
  What questions about networks are answered from.

  However an engine came about, the answer can be read off its history, without regard to
  how networks are kept and searched: the network table of a tag covers what a network on
  a line of its current load covers (`Course.Agrees.tableCovers_iff`), and the geographic
  networks of a tag cover what a network of the list last returned for it covers
  (`Course.Agrees.geoCovers_iff`).  `network_answers` says so of the three questions, for
  a tag in any spelling, and adds what they count.
-/

namespace TagRules

open Net

/-! ## The rules of a network table -/

namespace Line

variable {α : Type}

theorem mem_entries {lines : List (Line α)} {a : α} : a ∈ entries lines ↔ entry a ∈ lines := by
  unfold entries
  rw [List.mem_filterMap]
  constructor
  · rintro ⟨line, hline, ha⟩
    cases line with
    | entry b =>
      obtain rfl := Option.some.inj ha
      exact hline
    | foreign => cases ha
    | malformed => cases ha
  · exact fun hline => ⟨entry a, hline, rfl⟩

theorem mem_entries_readAll {read : List Char → Line α} {lines : List (List Char)} {a : α} :
    a ∈ entries (readAll read lines) ↔
      ∃ line ∈ lines, strip line ≠ [] ∧ read (strip line) = entry a := by
  rw [mem_entries]
  simp only [readAll, List.mem_map, List.mem_filter, Bool.not_eq_true',
    List.isEmpty_eq_false_iff]
  constructor
  · rintro ⟨_, ⟨⟨line, hline, rfl⟩, hne⟩, hread⟩
    exact ⟨line, hline, hne, hread⟩
  · rintro ⟨line, hline, hne, hread⟩
    exact ⟨_, ⟨⟨line, hline, rfl⟩, hne⟩, hread⟩

end Line

/-- The rules of some lines cover what a network on one of them covers. -/
theorem RuleSet.covers_ofLines (tag : String) (lines : List (List Char)) (n : Network) :
    (ofLines .network tag lines).1.covers n = true ↔
      ∃ m, (∃ line ∈ lines, Line.strip line ≠ [] ∧
        Line.readNetwork tag (Line.strip line) = .entry m) ∧ m.covers n = true := by
  dsimp only [ofLines, covers]
  rw [NetworkRules.covers_sort_foldl, List.any_eq_true]
  simp only [Line.mem_entries_readAll]

namespace Engine

/-! ## Answers from the history -/

/-- A line of the current load of the network table of a tag has the network, and is a rule for
the tag. -/
def Course.OnLine (c : Course) (code : String) (m : Network) : Prop :=
  ∃ t, c.engine.tables.get? .network code = some t ∧
    ∃ line ∈ t.currentLines (c.history.calls .network code),
      Line.strip line ≠ [] ∧ Line.readNetwork code (Line.strip line) = .entry m

/-- The list that the catalog last returned for a code has the network. -/
def Course.OnList (c : Course) (code : String) (m : Network) : Prop :=
  ∃ nets, c.history.lists code = some nets ∧ m ∈ nets

namespace Course.Agrees

variable {c : Course}

theorem tableCovers_iff (hc : c.Agrees) (code : String) (n : Network) :
    c.engine.tableCovers code n = true ↔ ∃ m, c.OnLine code m ∧ m.covers n = true := by
  unfold tableCovers OnLine
  cases ht : c.engine.tables.get? .network code with
  | none => simp
  | some t =>
    obtain ⟨hkind, htag⟩ := hc.tables.filed .network code t ht
    have hrules := hc.tables.current .network code t ht
    unfold Table.IsCurrent at hrules
    rw [hkind, htag] at hrules
    rw [Option.any_some, Table.covers, hrules, RuleSet.covers_ofLines]
    simp only [Option.some.injEq, exists_eq_left']

theorem geoCovers_iff (hc : c.Agrees) (code : String) (n : Network) :
    c.engine.geoCovers code n = true ↔ ∃ m, c.OnList code m ∧ m.covers n = true := by
  unfold geoCovers OnList
  rw [hc.lists code]
  cases c.history.lists code with
  | none => simp
  | some nets =>
    rw [Option.map_some, Option.any_some, NetworkRules.covers_ofList, List.any_eq_true]
    simp only [Option.some.injEq, exists_eq_left']

end Course.Agrees

/-- After any operations, questions about a network and a tag in any spelling are answered from
the history: the one about the table by the lines of its current load, the geographic one by the
list last returned for the tag, and the mixed one by both.  Each of them counts one for the tag
in canonical form if the answer is yes, and nothing if it is no. -/
theorem network_answers (s : Surroundings) (ops : List Operation) (tag : String) (n : Network) :
    let c := (Course.start s).take ops
    let e := c.engine
    let code := Tag.normalize tag
    ((e.matchTableNet tag n).1 = true ↔ ∃ m, c.OnLine code m ∧ m.covers n = true) ∧
      ((e.matchGeoNetwork tag n).1 = true ↔ ∃ m, c.OnList code m ∧ m.covers n = true) ∧
      ((e.matchNet tag n).1 = true ↔
        (e.matchTableNet tag n).1 = true ∨ (e.matchGeoNetwork tag n).1 = true) ∧
      Counts e .network code (e.matchTableNet tag n) ∧
      Counts e .network code (e.matchGeoNetwork tag n) ∧
      Counts e .network code (e.matchNet tag n) := by
  intro c e code
  have hc : c.Agrees := Course.agrees_take s ops
  refine ⟨hc.tableCovers_iff code n, hc.geoCovers_iff code n, ?_, countIf_counts e _ _ code,
    countIf_counts e _ _ code, countIf_counts e _ _ code⟩
  show (e.tableCovers code n || e.geoCovers code n) = true ↔
    e.tableCovers code n = true ∨ e.geoCovers code n = true
  rw [Bool.or_eq_true]

/-- A network on a line of a table, and one on a list that was replaced by a shorter one: the first
is in the table of its tag, and the networks of the list are those that the catalog returned
last. -/
theorem network_answers_stored :
    let ten : Network := ⟨⟨.v4, 0x0A000000, by decide⟩, 8, by decide⟩
    let inner : Network := ⟨⟨.v4, 0x0A010000, by decide⟩, 16, by decide⟩
    let other : Network :=
      ⟨⟨.v6, 0xFC000000000000000000000000000000, by decide⟩, 7, by decide⟩
    let c := (Course.start default).take
      [.put .network "lan" (.inline "LAN 10.0.0.0/8") [], .set (.geoCodes ["lan"] []),
        .set (.catalog (.ofEntries [("lan", [ten, other])] [])), .rebuildNetworks,
        .set (.catalog (.ofEntries [("lan", [other])] [])), .rebuildNetworks]
    (∃ m, c.OnLine "LAN" m ∧ m.covers inner = true) ∧
      (¬∃ m, c.OnLine "LAN" m ∧ m.covers other = true) ∧
      (¬∃ m, c.OnList "LAN" m ∧ m.covers inner = true) ∧
      (∃ m, c.OnList "LAN" m ∧ m.covers other = true) ∧
      (c.engine.matchNet " Lan" other).1 = true := by
  intro ten inner other c
  have hcode : Tag.normalize " Lan" = "LAN" := by decide +kernel
  obtain ⟨hinner, hinnerGeo, -⟩ := network_answers default _ " Lan" inner
  obtain ⟨hother, hotherGeo, hmixed, -⟩ := network_answers default _ " Lan" other
  rw [hcode] at hinner hinnerGeo hother hotherGeo
  rw [← hinner, ← hinnerGeo, ← hother, ← hotherGeo, hmixed]
  decide +kernel

end Engine

end TagRules
