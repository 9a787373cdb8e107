import TagRules.Proofs.Rules.NetworkSearch
import TagRules.Proofs.Text.Lines
import TagRules.Table

/-
  Texts put one after the other give the union of their rules.

  Every line is read by itself, so the entries and the malformed lines of two texts
  with a line feed between them are those of the first followed by those of the second.
  What that means for a set is said by `IsUnion`: keywords and patterns keep their
  order, names are united, and networks cover what one of the two covers, although
  sorting them all may drop networks that sorting one text would keep.

  `publish_lineFeed` is the result for tables of any kind but bindings, for any bytes:
  what is published is the union, and what was skipped adds up.
-/

namespace TagRules

open Net Text

/-! ## Entries and malformed lines -/

namespace Line

variable {α : Type}

theorem entries_append (xs ys : List (Line α)) : entries (xs ++ ys) = entries xs ++ entries ys :=
  List.filterMap_append

theorem skipped_append (xs ys : List (Line α)) : skipped (xs ++ ys) = skipped xs + skipped ys :=
  List.countP_append

/-- The lines of some bytes, read. -/
def ofBytes (read : List Char → Line α) (bytes : Bytes) : List (Line α) :=
  readAll read (lines (ofUtf8Lossy bytes))

theorem ofBytes_lineFeed (read : List Char → Line α) (first second : Bytes) :
    ofBytes read (first ++ 0x0A :: second) = ofBytes read first ++ ofBytes read second := by
  unfold ofBytes
  simp only [readAll_eq_map_said, said_lineFeed, List.map_append]

end Line

/-! ## Sets built from entries -/

theorem Keywords.words_foldl (entries : List String) (rules : Keywords) :
    (entries.foldl Keywords.add rules).words =
      rules.words ++ (entries.foldl Keywords.add Keywords.empty).words := by
  induction entries generalizing rules with
  | nil => simp [Keywords.empty]
  | cons word rest ih =>
    rw [List.foldl_cons, ih, List.foldl_cons, ih (Keywords.empty.add word), ← Array.append_assoc]
    congr 1
    unfold Keywords.add
    split <;> simp [Keywords.empty]

namespace DomainRules

theorem names_foldl (entries : List Entry) (rules : DomainRules) (name : String) :
    name ∈ (entries.foldl insert rules).names ↔
      name ∈ rules.names ∨ name ∈ (entries.foldl insert empty).names := by
  induction entries generalizing rules with
  | nil => simp [empty]
  | cons entry rest ih =>
    rw [List.foldl_cons, ih, List.foldl_cons, ih (empty.insert entry), ← or_assoc]
    refine or_congr_left ?_
    cases entry with
    | name given => simp [insert, empty, or_comm]
    | pattern p => simp [insert, empty]

theorem patterns_foldl (entries : List Entry) (rules : DomainRules) :
    (entries.foldl insert rules).patterns =
      rules.patterns ++ (entries.foldl insert empty).patterns := by
  induction entries generalizing rules with
  | nil => simp [empty]
  | cons entry rest ih =>
    rw [List.foldl_cons, ih, List.foldl_cons, ih (empty.insert entry), ← Array.append_assoc]
    congr 1
    cases entry <;> simp [insert, empty]

end DomainRules

namespace NetworkRules

theorem toList_foldl (nets : List Network) (rules : NetworkRules) :
    (nets.foldl add rules).toList = rules.toList ++ nets.map Network.truncate := by
  induction nets generalizing rules with
  | nil => simp
  | cons n rest ih =>
    rw [List.foldl_cons, ih]
    simp [add, toList]

theorem isSorted_foldl (nets : List Network) (rules : NetworkRules) :
    (nets.foldl add rules).isSorted = (rules.isSorted && nets.isEmpty) := by
  induction nets generalizing rules with
  | nil => simp
  | cons n rest ih =>
    rw [List.foldl_cons, ih]
    simp [add]

/-- Unless none was added, they have to be sorted. -/
theorem arranged_foldl {nets : List Network}
    (hsorted : (nets.foldl add empty).isSorted = true) :
    Arranged (nets.foldl add empty).toList := by
  rw [isSorted_foldl, Bool.and_eq_true, List.isEmpty_iff] at hsorted
  rw [hsorted.2]
  exact .nil

theorem covers_sort_foldl (nets : List Network) (query : Network) :
    (nets.foldl add empty).sort.1.covers query = nets.any fun n => n.covers query := by
  have hrep : Represents nets (nets.foldl add empty).toList := by
    rw [toList_foldl]
    exact represents_map nets
  exact covers_eq_any (sort_arranged arranged_foldl) (sort_represents hrep) query

end NetworkRules

/-! ## The union of two sets -/

namespace RuleSet

/-- A set is the union of two of its kind: keywords and patterns of the one come before those of
the other, names are in one of the two, and what is covered is covered by one of the two. -/
inductive IsUnion : RuleSet → RuleSet → RuleSet → Prop
  | keyword {x y z : Keywords} (words : z.words = x.words ++ y.words) :
    IsUnion (.keyword x) (.keyword y) (.keyword z)
  | domain {x y z : DomainRules} (names : ∀ name, name ∈ z.names ↔ name ∈ x.names ∨ name ∈ y.names)
    (patterns : z.patterns = x.patterns ++ y.patterns) :
    IsUnion (.domain x) (.domain y) (.domain z)
  | network {x y z : NetworkRules}
    (covers : ∀ query, z.covers query = (x.covers query || y.covers query)) :
    IsUnion (.network x) (.network y) (.network z)

/-- Bindings apart, of which one text may drop those of the other, two texts give the union. -/
theorem ofBytes_lineFeed {kind : TableKind} (h : kind ≠ .client) (tag : String)
    (first second : Bytes) :
    IsUnion (ofBytes kind tag first).1 (ofBytes kind tag second).1
        (ofBytes kind tag (first ++ 0x0A :: second)).1 ∧
      (ofBytes kind tag (first ++ 0x0A :: second)).2 =
        (ofBytes kind tag first).2 + (ofBytes kind tag second).2 := by
  cases kind with
  | keyword =>
    have hread := Line.ofBytes_lineFeed (Line.readKeyword tag) first second
    unfold Line.ofBytes at hread
    simp only [ofBytes, ofLines, hread, Line.entries_append, Line.skipped_append, and_true]
    refine .keyword ?_
    rw [List.foldl_append, Keywords.words_foldl]
  | domain =>
    have hread := Line.ofBytes_lineFeed (Line.readDomain tag) first second
    unfold Line.ofBytes at hread
    simp only [ofBytes, ofLines, hread, Line.entries_append, Line.skipped_append, and_true]
    refine .domain (fun name => ?_) ?_
    · rw [List.foldl_append, DomainRules.names_foldl]
    · rw [List.foldl_append, DomainRules.patterns_foldl]
  | network =>
    have hread := Line.ofBytes_lineFeed (Line.readNetwork tag) first second
    unfold Line.ofBytes at hread
    simp only [ofBytes, ofLines, hread, Line.entries_append, Line.skipped_append, and_true]
    refine .network fun query => ?_
    simp only [NetworkRules.covers_sort_foldl, List.any_append]
  | client => exact absurd rfl h

end RuleSet

namespace Table

/-- Publishing two texts with a line feed between them gives the union of what each of them gives
alone, and skips what each of them skips.  So nothing in one line, whether it is malformed, no
pattern or not even text, reaches another. -/
theorem publish_lineFeed (t : Table) (h : t.kind ≠ .client) (v v₁ v₂ : Source.Version)
    (first second : Bytes) :
    ∃ skipped₁ skipped₂,
      (t.publish ⟨v₁, first⟩).1 = .reloaded (t.publish ⟨v₁, first⟩).2.size skipped₁ ∧
        (t.publish ⟨v₂, second⟩).1 = .reloaded (t.publish ⟨v₂, second⟩).2.size skipped₂ ∧
        (t.publish ⟨v, first ++ 0x0A :: second⟩).1 =
          .reloaded (t.publish ⟨v, first ++ 0x0A :: second⟩).2.size (skipped₁ + skipped₂) ∧
        RuleSet.IsUnion (t.publish ⟨v₁, first⟩).2.rules (t.publish ⟨v₂, second⟩).2.rules
          (t.publish ⟨v, first ++ 0x0A :: second⟩).2.rules := by
  obtain ⟨hunion, hskipped⟩ := RuleSet.ofBytes_lineFeed h t.tag first second
  refine ⟨(RuleSet.ofBytes t.kind t.tag first).2, (RuleSet.ofBytes t.kind t.tag second).2, rfl, rfl,
    ?_, hunion⟩
  rw [← hskipped]
  rfl

/-- Two lines for a table of networks, the first of which ends in a carriage return and in the
middle of a character. -/
theorem publish_lineFeed_network :
    TableKind.network ≠ .client ∧
      ∃ skipped₁ skipped₂,
        let t := create .network "lan" (.url "http://lists/lan")
        let first : Bytes := [0x3A, 0x3A, 0x2F, 0x38, 0x20, 0x23, 0xE2, 0x82, 0x0D]
        let second : Bytes := [0x6C, 0x61, 0x6E, 0x3A, 0x37, 0x2E, 0x30]
        (t.publish ⟨.given, first⟩).1 = .reloaded (t.publish ⟨.given, first⟩).2.size skipped₁ ∧
          (t.publish ⟨.given, second⟩).1 = .reloaded (t.publish ⟨.given, second⟩).2.size skipped₂ ∧
          (t.publish ⟨.given, first ++ 0x0A :: second⟩).1 =
            .reloaded (t.publish ⟨.given, first ++ 0x0A :: second⟩).2.size (skipped₁ + skipped₂) ∧
          RuleSet.IsUnion (t.publish ⟨.given, first⟩).2.rules (t.publish ⟨.given, second⟩).2.rules
            (t.publish ⟨.given, first ++ 0x0A :: second⟩).2.rules :=
  ⟨by decide, publish_lineFeed (create .network "lan" (.url "http://lists/lan")) (by decide) .given
    .given .given _ _⟩

end Table

end TagRules
