import TagRules.Proofs.Rules.Union

/-
  Lines that carry the tag of another table.

  One file can feed several tables, because a table passes over the lines of every other
  tag.  A keyword line carries a tag if it has a second word; the lines of domains and of
  clients carry what stands before their first colon (`Line.Carries`).  Such a line is
  never an entry for another tag, and malformed only if it is so for its own
  (`Line.PassedOver`): what is checked before the tag is checked for every table, and what
  is checked after it for the table of the tag alone.  So putting such a line into the
  lines of a table leaves its rules as they were, and its count of skipped lines as well if
  the table of the tag takes the line (`RuleSet.ofLines_insert`).

  Lines of networks are not among them.  A whole line may be a network, whatever stands
  before its first colon.
-/

namespace TagRules

open Net Text

namespace Line

/-- A line, as it is left without comment and blanks, carries a tag in some spelling. -/
inductive Carries (tag : String) : TableKind → List Char → Prop
  | keyword {line owner word : List Char} {more : List (List Char)}
    (words : words line = owner :: word :: more) (spells : Tag.spells tag owner = true) :
    Carries tag .keyword line
  | domain {owner rest : List Char} (colon : ':' ∉ owner) (spells : Tag.spells tag owner = true) :
    Carries tag .domain (owner ++ ':' :: rest)
  | client {owner rest : List Char} (colon : ':' ∉ owner) (spells : Tag.spells tag owner = true) :
    Carries tag .client (owner ++ ':' :: rest)

/-- What a line says to one table, beside what it says to the table of its tag: it is no entry,
and malformed only if it is so there. -/
structure PassedOver {α : Type} (here there : Line α) : Prop where
  noEntry : ∀ a, here ≠ entry a
  malformed : here = malformed → there = malformed

namespace PassedOver

variable {α : Type}

theorem foreign (there : Line α) : PassedOver .foreign there := ⟨nofun, nofun⟩

theorem refused : PassedOver (.malformed : Line α) .malformed := ⟨nofun, fun _ => rfl⟩

end PassedOver

section

variable {tag owner : String} {line : List Char}

theorem spells_eq_false (hne : tag ≠ owner) {text : List Char}
    (h : Tag.spells owner text = true) : Tag.spells tag text = false := by
  unfold Tag.spells at h ⊢
  rw [beq_iff_eq.mp h, beq_eq_false_iff_ne]
  exact hne.symm

theorem carries_ne_nil {kind : TableKind} (h : Carries owner kind line) : line ≠ [] := by
  cases h with
  | keyword hwords =>
    rintro rfl
    cases hwords
  | domain => simp
  | client => simp

theorem fields?_append {owner : List Char} (h : ':' ∉ owner) (rest : List Char) :
    fields? (owner ++ ':' :: rest) =
      (cut? (· == ':') rest).map fun answer => (owner, answer.1, answer.2) := by
  unfold fields?
  simp only [cut?_append h, Option.bind_eq_bind, Option.bind_some]
  cases cut? (· == ':') rest <;> rfl

/-- The tag is all that a keyword line is checked for. -/
theorem readKeyword_passedOver (hne : tag ≠ owner) (h : Carries owner .keyword line) :
    PassedOver (readKeyword tag line) (readKeyword owner line) := by
  cases h with
  | keyword hwords hspells =>
    have hforeign : readKeyword tag line = .foreign := by
      simp [readKeyword, hwords, spells_eq_false hne hspells]
    rw [hforeign]
    exact .foreign _

/-- The fields of a line and the kind of its rule are checked before the tag, and the value of the
rule after it. -/
theorem readDomain_passedOver (hne : tag ≠ owner) (h : Carries owner .domain line) :
    PassedOver (readDomain tag line) (readDomain owner line) := by
  cases h with
  | @domain text rest hcolon hspells =>
    have hother := spells_eq_false hne hspells
    have hcontains : (text ++ ':' :: rest).contains ':' = true := by simp
    unfold readDomain
    rw [hcontains, fields?_append hcolon]
    cases cut? (· == ':') rest with
    | none => exact .refused
    | some answer =>
      dsimp only [Option.map_some]
      cases MatchKind.ofChars? answer.1 with
      | none => exact .refused
      | some kind =>
        simp only [hother]
        exact .foreign _

/-- The tag of a binding is the last thing that is checked. -/
theorem readClient_passedOver (hne : tag ≠ owner) (h : Carries owner .client line) :
    PassedOver (readClient tag line) (readClient owner line) := by
  cases h with
  | @client text rest hcolon hspells =>
    have hother := spells_eq_false hne hspells
    unfold readClient
    rw [fields?_append hcolon]
    cases cut? (· == ':') rest with
    | none => exact .refused
    | some answer =>
      dsimp only [Option.map_some]
      split
      · exact .refused
      · cases readBinding? (kindName answer.1 == "ip") answer.2 with
        | none => exact .refused
        | some binding =>
          simp only [hother]
          exact .foreign _

end

/-! ## One line among others -/

section

variable {α : Type} {read : List Char → Line α} {line : List Char}

theorem readAll_append (before after : List (List Char)) :
    readAll read (before ++ after) = readAll read before ++ readAll read after := by
  simp only [readAll_eq_map_said, said_append, List.map_append]

theorem readAll_single (h : strip line ≠ []) : readAll read [line] = [read (strip line)] := by
  simp [readAll, h]

theorem readAll_insert (h : strip line ≠ []) (before after : List (List Char)) :
    readAll read (before ++ line :: after) =
      readAll read before ++ ([read (strip line)] ++ readAll read after) := by
  rw [readAll_append, ← List.singleton_append, readAll_append, readAll_single h]

theorem insert_passedOver {there : List Char → Line α} (h : strip line ≠ [])
    (hpassed : PassedOver (read (strip line)) (there (strip line)))
    (before after : List (List Char)) :
    entries (readAll read (before ++ line :: after)) = entries (readAll read (before ++ after)) ∧
      (skipped (readAll there [line]) = 0 →
        skipped (readAll read (before ++ line :: after)) =
          skipped (readAll read (before ++ after))) := by
  rw [readAll_insert h, readAll_append, readAll_single h]
  simp only [entries_append, skipped_append]
  cases hread : read (strip line) with
  | entry a => exact absurd hread (hpassed.noEntry a)
  | foreign => exact ⟨rfl, fun _ => congrArg _ (Nat.zero_add _)⟩
  | malformed =>
    refine ⟨rfl, fun htaken => ?_⟩
    rw [hpassed.malformed hread] at htaken
    cases htaken

end

end Line

namespace RuleSet

open Line

/-- Putting a line of another tag anywhere into the lines of a table leaves its rules as they were.
If nothing of the line is skipped for the table of its tag, nothing more is skipped either. -/
theorem ofLines_insert {kind : TableKind} {tag owner : String} (hne : tag ≠ owner)
    {line : List Char} (h : Carries owner kind (strip line)) (before after : List (List Char)) :
    (ofLines kind tag (before ++ line :: after)).1 = (ofLines kind tag (before ++ after)).1 ∧
      ((ofLines kind owner [line]).2 = 0 →
        (ofLines kind tag (before ++ line :: after)).2 =
          (ofLines kind tag (before ++ after)).2) := by
  have hsays := carries_ne_nil h
  cases kind with
  | keyword =>
    obtain ⟨hentries, hskipped⟩ :=
      insert_passedOver hsays (readKeyword_passedOver hne h) before after
    exact ⟨by simp only [ofLines, hentries], hskipped⟩
  | domain =>
    obtain ⟨hentries, hskipped⟩ :=
      insert_passedOver hsays (readDomain_passedOver hne h) before after
    exact ⟨by simp only [ofLines, hentries], hskipped⟩
  | network => cases h
  | client =>
    obtain ⟨hentries, hskipped⟩ :=
      insert_passedOver hsays (readClient_passedOver hne h) before after
    refine ⟨by simp only [ofLines, hentries], fun htaken => ?_⟩
    -- The count is of malformed lines and of nested bindings, and neither are there.
    have hline := hskipped (Nat.eq_zero_of_add_eq_zero_right htaken)
    simp only [ofLines, hentries, hline]

/-- A binding for another tag, with a comment and blanks, between two lines of a table. -/
theorem ofLines_insert_client :
    let line := " us : IP :10.0.0.1:2001:db8::1  # one client".toList
    let before := ["CN:cidr:10.0.0.0/8:1.1.1.1".toList]
    let after := ["CN:cidr:10.1.0.0/16:2.2.2.2".toList, "CN:ip".toList]
    "CN" ≠ "US" ∧ Carries "US" .client (strip line) ∧ (ofLines .client "US" [line]).2 = 0 ∧
      (ofLines .client "CN" (before ++ line :: after)).1 =
        (ofLines .client "CN" (before ++ after)).1 ∧
      (ofLines .client "CN" (before ++ line :: after)).2 =
        (ofLines .client "CN" (before ++ after)).2 := by
  intro line before after
  have hne : "CN" ≠ "US" := by decide
  have hcarries : Carries "US" .client (strip line) := by
    have hstrip : strip line = "us ".toList ++ ':' :: " IP :10.0.0.1:2001:db8::1".toList := by
      decide +kernel
    rw [hstrip]
    exact .client (by decide) (by decide)
  have htaken : (ofLines .client "US" [line]).2 = 0 := by decide +kernel
  obtain ⟨hrules, hskipped⟩ := ofLines_insert hne hcarries before after
  exact ⟨hne, hcarries, htaken, hrules, hskipped htaken⟩

end RuleSet

end TagRules
