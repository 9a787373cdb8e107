import TagRules.Proofs.Rules.Union
import TagRules.Proofs.Text.Blank

/-
  What a set of domain rules matches, rule by rule.

  A set that is made of entries has the names and the patterns among them, and forgets
  which names were given for one name and which for a domain: both answer for the name
  itself and for every name in the domain (`Entry.Answers`).  A name is in a domain if it
  ends with the name of the domain, after a full stop unless that is all of it
  (`mem_labelSuffixes`).  A set matches a name in the way of a kind exactly if one of its
  entries answers (`matchesKind_foldl`).

  For any set, however it was made, `matchesSuffix_labels` says what that comes to: labels
  put before a name that matches leave it matching, and letters put before it do not.  The
  name may be empty that a set holds, and then every name matches that still ends with a full
  stop when the one of the root is gone.
-/

namespace TagRules.DomainRules

open Text

/-- The suffixes that begin at a label: the name itself and what comes after a full stop. -/
theorem mem_labelSuffixes {suffix name : List Char} :
    suffix ∈ labelSuffixes name ↔ name = suffix ∨ ∃ before, name = before ++ '.' :: suffix := by
  unfold labelSuffixes
  rw [List.mem_append, List.mem_reverse, List.mem_map, List.mem_singleton, or_comm, eq_comm]
  refine or_congr_right ⟨?_, ?_⟩
  · rintro ⟨⟨before, after⟩, hmem, rfl⟩
    exact ⟨before, mem_cuts.mp hmem⟩
  · rintro ⟨before, hname⟩
    exact ⟨(before, suffix), mem_cuts.mpr hname, rfl⟩

/-- Whether a rule by itself matches a name in the way of a kind.  A name stands for itself and,
except for the empty query, for the domain it names. -/
def Entry.Answers (kind : MatchKind) (name : String) : Entry → Prop
  | .name given =>
    match kind with
    | .full => queried name = given.toList
    | .domain => name ≠ "" ∧
        (queried name = given.toList ∨ ∃ before, queried name = before ++ '.' :: given.toList)
    | .pattern => False
  | .pattern p => kind = .pattern ∧ p.isMatch (queried name) = true

theorem mem_names_foldl {entries : List Entry} {given : String} :
    given ∈ (entries.foldl insert empty).names ↔ Entry.name given ∈ entries := by
  induction entries with
  | nil => simp [empty]
  | cons entry rest ih =>
    rw [List.foldl_cons, names_foldl, ih, List.mem_cons]
    refine or_congr_left ?_
    cases entry with
    | name other =>
      simp [insert, empty]
      exact eq_comm
    | pattern p => simp [insert, empty]

theorem mem_patterns_foldl {entries : List Entry} {p : Pattern} :
    p ∈ (entries.foldl insert empty).patterns ↔ Entry.pattern p ∈ entries := by
  induction entries with
  | nil => simp [empty]
  | cons entry rest ih =>
    rw [List.foldl_cons, patterns_foldl, Array.mem_append, ih, List.mem_cons]
    refine or_congr_left ?_
    cases entry with
    | name given => simp [insert, empty]
    | pattern other => simp [insert, empty]

theorem matchesFull_iff {rules : DomainRules} {name : String} :
    rules.matchesFull name = true ↔
      ∃ given ∈ rules.names, queried name = given.toList := by
  unfold matchesFull
  rw [Std.ExtTreeSet.contains_iff_mem]
  constructor
  · exact fun h => ⟨_, h, String.toList_ofList.symm⟩
  · rintro ⟨given, hmem, heq⟩
    rwa [heq, String.ofList_toList]

theorem matchesSuffix_iff {rules : DomainRules} {name : String} :
    rules.matchesSuffix name = true ↔
      name ≠ "" ∧ ∃ given ∈ rules.names,
        queried name = given.toList ∨ ∃ before, queried name = before ++ '.' :: given.toList := by
  unfold matchesSuffix
  rw [Bool.and_eq_true, Bool.and_eq_true, List.any_eq_true]
  constructor
  · rintro ⟨⟨-, hname⟩, suffix, hsuffix, hmem⟩
    refine ⟨by simpa using hname, _, Std.ExtTreeSet.contains_iff_mem.mp hmem, ?_⟩
    rw [String.toList_ofList]
    exact mem_labelSuffixes.mp hsuffix
  · rintro ⟨hname, given, hmem, hin⟩
    have hsome : rules.names.isEmpty = false :=
      Std.ExtTreeSet.isEmpty_eq_false_iff.mpr (Std.ExtTreeSet.ne_empty_of_mem hmem)
    refine ⟨⟨by simp [hsome], by simpa using hname⟩, given.toList, mem_labelSuffixes.mpr hin, ?_⟩
    rw [String.ofList_toList]
    exact Std.ExtTreeSet.contains_iff_mem.mpr hmem

theorem matchesKind_foldl {entries : List Entry} {kind : MatchKind} {name : String} :
    (entries.foldl insert empty).matchesKind kind name = true ↔
      ∃ entry ∈ entries, entry.Answers kind name := by
  have hnames : ∀ P : String → Prop, (∃ given ∈ (entries.foldl insert empty).names, P given) ↔
      ∃ given, Entry.name given ∈ entries ∧ P given := fun P =>
    exists_congr fun given => and_congr_left' mem_names_foldl
  -- Names answer in full and by suffix, patterns for themselves; a rule of the other form does not.
  cases kind with
  | full =>
    show matchesFull _ name = true ↔ _
    rw [matchesFull_iff, hnames]
    constructor
    · rintro ⟨given, hmem, hgiven⟩
      exact ⟨.name given, hmem, hgiven⟩
    · rintro ⟨given | p, hmem, hanswers⟩
      · exact ⟨given, hmem, hanswers⟩
      · cases hanswers.1
  | domain =>
    show matchesSuffix _ name = true ↔ _
    rw [matchesSuffix_iff, hnames]
    constructor
    · rintro ⟨hname, given, hmem, hgiven⟩
      exact ⟨.name given, hmem, hname, hgiven⟩
    · rintro ⟨given | p, hmem, hanswers⟩
      · exact ⟨hanswers.1, given, hmem, hanswers.2⟩
      · cases hanswers.1
  | pattern =>
    show matchesPattern _ name = true ↔ _
    unfold matchesPattern
    rw [Array.any_eq_true']
    constructor
    · rintro ⟨p, hmem, hp⟩
      exact ⟨.pattern p, mem_patterns_foldl.mp hmem, rfl, hp⟩
    · rintro ⟨given | p, hmem, hanswers⟩
      · exact hanswers.elim
      · exact ⟨p, mem_patterns_foldl.mpr hmem, hanswers.2⟩

/-! ## Labels before a name -/

theorem queried_cases (name : String) :
    name.toList = queried name ++ ['.'] ∨
      (name.toList = queried name ∧ name.toList.getLast? ≠ some '.') := by
  unfold queried dropFinalStop
  split
  · next hstop =>
    obtain ⟨labels, hlabels⟩ := List.getLast?_eq_some_iff.mp hstop
    exact .inl (by rw [hlabels, List.dropLast_concat])
  · next hplain => exact .inr ⟨rfl, hplain⟩

theorem queried_label {name : String} (h : name ≠ "") (label : String) :
    queried (label ++ "." ++ name) = label.toList ++ '.' :: queried name := by
  have hname : name.toList ≠ [] := fun hnil => h (String.toList_eq_nil_iff.mp hnil)
  unfold queried
  rw [String.toList_append, dropFinalStop_append hname, String.toList_append, List.append_assoc]
  rfl

/-- What comes before a domain in a name is nothing, or ends with a full stop. -/
theorem exists_boundary_iff {name given : List Char} :
    (∃ before, name = before ++ given ∧ (before = [] ∨ before.getLast? = some '.')) ↔
      name = given ∨ ∃ before, name = before ++ '.' :: given := by
  constructor
  · rintro ⟨before, rfl, rfl | hstop⟩
    · exact .inl rfl
    · obtain ⟨labels, rfl⟩ := List.getLast?_eq_some_iff.mp hstop
      exact .inr ⟨labels, by rw [List.append_assoc]; rfl⟩
  · rintro (rfl | ⟨before, rfl⟩)
    · exact ⟨[], rfl, .inl rfl⟩
    · exact ⟨before ++ ['.'], by rw [List.append_assoc]; rfl,
        .inr (List.getLast?_concat ..)⟩

theorem matchesSuffix_label {rules : DomainRules} {name : String}
    (h : rules.matchesSuffix name = true) (label : String) :
    rules.matchesSuffix (label ++ "." ++ name) = true := by
  obtain ⟨hname, given, hgiven, hin⟩ := matchesSuffix_iff.mp h
  have hne : label ++ "." ++ name ≠ "" := by
    intro hnil
    have hlength := congrArg (fun s : String => s.toList.length) hnil
    simp only [String.toList_append, List.length_append] at hlength
    exact absurd hlength (by simp)
  refine matchesSuffix_iff.mpr ⟨hne, given, hgiven, .inr ?_⟩
  rw [queried_label hname]
  rcases hin with hall | ⟨before, hbefore⟩
  · exact ⟨label.toList, by rw [hall]⟩
  · exact ⟨label.toList ++ '.' :: before, by rw [hbefore, List.append_assoc]; rfl⟩

theorem matchesSuffix_of_full {rules : DomainRules} {name : String} (hname : name ≠ "")
    (h : rules.matchesFull name = true) : rules.matchesSuffix name = true := by
  obtain ⟨given, hgiven, hall⟩ := matchesFull_iff.mp h
  exact matchesSuffix_iff.mpr ⟨hname, given, hgiven, .inl hall⟩

theorem matchesAny_iff {rules : DomainRules} {name : String} :
    rules.matchesAny name = true ↔
      rules.matchesFull name = true ∨ rules.matchesSuffix name = true ∨
        ∃ p ∈ rules.patterns, p.isMatch (queried name) = true := by
  unfold matchesAny matchesPattern
  rw [Bool.or_eq_true, Bool.or_eq_true, Array.any_eq_true', or_assoc]

/-- By suffix a name matches if it is not empty and, without the full stop of the root, is a name of
the set or ends with a full stop and one; so what comes before that name in it is nothing or ends
at a label.  Labels may be added in front.  A name that is not empty and matches in full matches by
suffix, and it matches at all if it does so or by a pattern.  The empty name, which matches nothing
by suffix, matches in full if the set holds it. -/
theorem matchesSuffix_labels (rules : DomainRules) (name : String) :
    (name.toList = queried name ++ ['.'] ∨
      (name.toList = queried name ∧ name.toList.getLast? ≠ some '.')) ∧
    (rules.matchesSuffix name = true ↔ name ≠ "" ∧ ∃ given ∈ rules.names,
      queried name = given.toList ∨ ('.' :: given.toList) <:+ queried name) ∧
    (rules.matchesSuffix name = true ↔ name ≠ "" ∧ ∃ given ∈ rules.names, ∃ before,
      queried name = before ++ given.toList ∧ (before = [] ∨ before.getLast? = some '.')) ∧
    (rules.matchesSuffix name = true → ∀ label : String,
      rules.matchesSuffix (label ++ "." ++ name) = true) ∧
    (name ≠ "" →
      (rules.matchesFull name = true → rules.matchesSuffix name = true) ∧
      (rules.matchesAny name = true ↔
        rules.matchesSuffix name = true ∨
          ∃ p ∈ rules.patterns, p.isMatch (queried name) = true)) ∧
    (rules.matchesAny "" = true ↔
      "" ∈ rules.names ∨ ∃ p ∈ rules.patterns, p.isMatch [] = true) := by
  refine ⟨queried_cases name, ?_, ?_, matchesSuffix_label, fun hname => ⟨?_, ?_⟩, ?_⟩
  · rw [matchesSuffix_iff]
    simp only [List.IsSuffix, eq_comm]
  · rw [matchesSuffix_iff]
    simp only [exists_boundary_iff]
  · exact matchesSuffix_of_full hname
  · rw [matchesAny_iff, ← or_assoc]
    exact or_congr_left ⟨fun h => h.elim (matchesSuffix_of_full hname) id, .inr⟩
  · have hfull : rules.matchesFull "" = true ↔ "" ∈ rules.names := Std.ExtTreeSet.contains_iff_mem
    have hsuffix : ¬rules.matchesSuffix "" = true := fun h => (matchesSuffix_iff.mp h).1 rfl
    rw [matchesAny_iff, hfull, or_iff_right hsuffix]
    rfl

/-- The name of a rule with the full stop of the root, a label before it, and letters before it. -/
theorem matchesSuffix_labels_root :
    let rules : DomainRules := empty.insert (.name "example.com")
    "example.com." ≠ "" ∧ rules.matchesFull "example.com." = true ∧
      rules.matchesSuffix "example.com." = true ∧
      rules.matchesSuffix ("www" ++ "." ++ "example.com.") = true ∧
      rules.matchesAny "example.com." = true ∧ rules.matchesSuffix "notexample.com" = false := by
  intro rules
  have hname : "example.com." ≠ "" := by decide
  have hfull : rules.matchesFull "example.com." = true := by decide +kernel
  obtain ⟨-, -, -, hlabel, hboth, -⟩ := matchesSuffix_labels rules "example.com."
  obtain ⟨hsuffix, hany⟩ := hboth hname
  obtain ⟨-, -, hboundary, -, -, -⟩ := matchesSuffix_labels rules "notexample.com"
  refine ⟨hname, hfull, hsuffix hfull, hlabel (hsuffix hfull) "www",
    hany.mpr (.inl (hsuffix hfull)), ?_⟩
  rw [← Bool.not_eq_true, hboundary]
  rintro ⟨-, given, hgiven, before, hbefore, hends⟩
  have heq : given = "example.com" := by
    rcases Std.ExtTreeSet.mem_insert.mp hgiven with hsame | hnone
    · exact (Std.compare_eq_iff_eq.mp hsame).symm
    · exact absurd hnone Std.ExtTreeSet.not_mem_empty
  subst heq
  have hnot : before = ['n', 'o', 't'] := by
    have hquery : queried "notexample.com" = ['n', 'o', 't'] ++ "example.com".toList := by decide
    exact (List.append_cancel_right (hquery.symm.trans hbefore)).symm
  rw [hnot] at hends
  revert hends
  decide

end TagRules.DomainRules
