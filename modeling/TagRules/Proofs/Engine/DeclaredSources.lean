import Mathlib.Data.List.Forall2
import TagRules.Proofs.Engine.Tables
import TagRules.Proofs.Surroundings.Places

/-
  The sources of the tables of one declaration.

  A declaration makes one table for every tag that is not blank, each by a load of its own
  that meets what the loads before it left (`addTags_fst`).  These make requests at most, so
  that the files are the same for all of them.  A table has the rules that the lines of its
  source give for its tag, and none if the source cannot be read.

  The text of the declaration is looked at again for every tag.  A URL and a file that is
  there are the same source for all of them.  Any other text is rules for the tags it opens
  with, and the path of a file that is not there for the rest, so that the tables share
  their source only if the text opens with all of the tags or with none.
-/

namespace TagRules

open Text

namespace Source

/-- The lines that a table takes from a source with the surroundings as they are.  A source that
cannot be read gives none. -/
def linesIn (source : Source) (tag : String) (s : Surroundings) : List (List Char) :=
  match source with
  | inline text => Table.givenLines tag text.toList
  | file path =>
    match s.files.read path with
    | .ok content => lines (ofUtf8Lossy content)
    | .error _ => []
  | url u =>
    match s.remote.answer u with
    | .ok body => lines (ofUtf8Lossy body)
    | .error _ => []

/-- A text that is neither a URL nor a file is the same source for two tags if it opens with both
or with neither. -/
theorem ofText_eq_ofText_iff (files : FileTree) (tag tag' text : String) :
    ofText files tag text = ofText files tag' text ↔
      isUrl (trim text.toList) = true ∨ files.isFile (String.ofList (trim text.toList)) = true ∨
        opensWith tag (trim text.toList) = opensWith tag' (trim text.toList) := by
  unfold ofText
  dsimp only
  cases hurl : isUrl (trim text.toList)
  · cases hfile : files.isFile (String.ofList (trim text.toList))
    · cases opensWith tag (trim text.toList) <;> cases opensWith tag' (trim text.toList) <;> simp
    · simp
  · simp

end Source

namespace Table

theorem load_create_rules (kind : TableKind) (tag : String) (source : Source) (timeout : Nat)
    (s : Surroundings) :
    ((create kind tag source).load timeout s).2.1.rules =
      (RuleSet.ofLines kind (Tag.normalize tag)
        (source.linesIn (Tag.normalize tag) s)).1 := by
  unfold load
  rw [refresh_eq]
  cases source with
  | inline text => rfl
  | file path =>
    unfold create Source.view Source.linesIn
    dsimp only
    cases hread : s.files.read path with
    | ok content =>
      obtain ⟨seen, hseen⟩ := FileTree.metadata_of_read hread
      rw [hseen]
      rfl
    | error fault => cases s.files.metadata path <;> exact (ofLines_nil kind _).symm
  | url u =>
    unfold create Source.view Source.linesIn
    dsimp only
    cases s.remote.answer u with
    | ok body => rfl
    | error fault => exact (ofLines_nil kind _).symm

end Table

theorem forall_mem_eq_iff {α : Type} (f : α → Bool) (l : List α) :
    (∀ a ∈ l, ∀ b ∈ l, f a = f b) ↔ (∀ a ∈ l, f a = true) ∨ ∀ a ∈ l, f a = false := by
  constructor
  · intro h
    by_cases hsome : ∃ a ∈ l, f a = true
    · obtain ⟨a, ha, htrue⟩ := hsome
      exact .inl fun b hb => (h b hb a ha).trans htrue
    · exact .inr fun b hb => Bool.eq_false_iff.mpr fun htrue => hsome ⟨b, hb, htrue⟩
  · rintro (h | h) a ha b hb
    · rw [h a ha, h b hb]
    · rw [h a ha, h b hb]

namespace Declaration

/-- What a declaration makes for a tag: a table of its kind, with the source that its text names
for the tag and the rules of that source. -/
structure Makes (d : Declaration) (s : Surroundings) (tag : String) (t : Table) : Prop where
  kind_eq : t.kind = d.kind
  tag_eq : t.tag = Tag.normalize tag
  source_eq : t.source = .ofText s.files tag d.source
  rules_eq : t.rules = (RuleSet.ofLines d.kind t.tag (t.source.linesIn t.tag s)).1

end Declaration

/-- The table of a load is what its declaration makes for the tag with what the load meets. -/
theorem Load.makes_run (l : Load) (timeout : Nat) :
    l.declaration.Makes l.seen l.given (l.run timeout).2.1 := by
  obtain ⟨d, tag, s⟩ := l
  obtain ⟨hkind, htag⟩ := run_frame ⟨d, tag, s⟩ timeout
  have hsource : (run ⟨d, tag, s⟩ timeout).2.1.source = .ofText s.files tag d.source := by
    unfold run Table.ofText Table.load
    rw [(Table.refresh_frame ..).2.2]
    cases Source.ofText s.files tag d.source <;> rfl
  refine ⟨hkind, htag, hsource, ?_⟩
  rw [htag, hsource]
  unfold run Table.ofText
  exact Table.load_create_rules ..

namespace Engine

theorem addTags_fst (e : Engine) (d : Declaration) (s : Surroundings) (tags : List String) :
    (e.addTags d.kind d.source s tags).1 =
      (Load.each e.fetchTimeout s (tags.map fun given => (d, given))).map fun l =>
        (l.run e.fetchTimeout).2.1 := by
  induction tags generalizing e s with
  | nil => rfl
  | cons given rest ih =>
    rw [addTags_cons, List.map_cons, Load.each_cons, List.map_cons]
    dsimp only
    rw [ih]

theorem addTags_tables (e : Engine) (d : Declaration) (s : Surroundings) (tags : List String) :
    (e.addTags d.kind d.source s tags).2.1.tables =
      (e.addTags d.kind d.source s tags).1.foldl (fun x t => x.insert d.kind t) e.tables := by
  induction tags generalizing e s with
  | nil => rfl
  | cons given rest ih =>
    rw [addTags_cons]
    exact ih _ _

/-- A declaration makes one table for every tag that is not blank and puts it in, and the table
has exactly the rules that its own source gives for its own tag when it is loaded; the loads before
it made no change to the surroundings but requests.  All of these tables have the same source
exactly if the text is a URL or names a file that is there, or if it opens with each of the tags or
with none of them. -/
theorem declare_sources (e : Engine) (d : Declaration) (s : Surroundings) :
    let made := (e.declare d s).1
    let loads := Load.each e.fetchTimeout s (d.givenTags.map fun given => (d, given))
    let text := trim d.source.toList
    (loads.map Load.given = d.givenTags ∧ ∀ l ∈ loads, s.OnlyRequests l.seen) ∧
      List.Forall₂ (fun l t => d.Makes l.seen l.given t) loads made ∧
      (e.declare d s).2.1.tables = made.foldl (fun x t => x.insert d.kind t) e.tables ∧
      ((∀ t ∈ made, ∀ u ∈ made, t.source = u.source) ↔
        isUrl text = true ∨ s.files.isFile (String.ofList text) = true ∨
          (∀ tag ∈ d.givenTags, Source.opensWith tag text = true) ∨
          ∀ tag ∈ d.givenTags, Source.opensWith tag text = false) := by
  intro made loads text
  have hmade : made = loads.map fun l => (l.run e.fetchTimeout).2.1 :=
    e.addTags_fst d s d.givenTags
  have htags := Load.map_each e.fetchTimeout s (d.givenTags.map fun given => (d, given))
  have hgiven : loads.map Load.given = d.givenTags := by
    simpa [Function.comp_def, Load.tagged] using congrArg (List.map Prod.snd) htags
  have hseen : ∀ l ∈ loads, s.OnlyRequests l.seen := fun _ => Load.onlyRequests_of_mem
  have hmakes : ∀ l ∈ loads, d.Makes l.seen l.given (l.run e.fetchTimeout).2.1 := by
    intro l hl
    have hpair : l.tagged ∈ d.givenTags.map fun given => (d, given) :=
      htags ▸ List.mem_map_of_mem hl
    obtain ⟨_, -, hsame⟩ := List.mem_map.mp hpair
    rw [(Prod.mk.inj hsame).1]
    exact l.makes_run e.fetchTimeout
  refine ⟨⟨hgiven, hseen⟩, ?_, e.addTags_tables d s d.givenTags, ?_⟩
  · rw [hmade, List.forall₂_map_right_iff, List.forall₂_same]
    exact hmakes
  · have hsource : ∀ l ∈ loads,
        (l.run e.fetchTimeout).2.1.source = .ofText s.files l.given d.source := by
      intro l hl
      rw [(hmakes l hl).source_eq, (hseen l hl).files_eq]
    have hsources : (∀ t ∈ made, ∀ u ∈ made, t.source = u.source) ↔
        ∀ tag ∈ d.givenTags, ∀ tag' ∈ d.givenTags,
          Source.ofText s.files tag d.source = .ofText s.files tag' d.source := by
      rw [hmade, ← hgiven]
      simp only [List.forall_mem_map]
      refine forall₂_congr fun l hl => forall₂_congr fun l' hl' => ?_
      rw [hsource l hl, hsource l' hl']
    rw [hsources, ← forall_mem_eq_iff (fun tag => Source.opensWith tag text)]
    simp only [Source.ofText_eq_ofText_iff]
    -- The first two conditions do not depend on the tags, so they come out in front.
    constructor
    · intro h
      by_cases hurl : isUrl text = true
      · exact .inl hurl
      · by_cases hfile : s.files.isFile (String.ofList text) = true
        · exact .inr (.inl hfile)
        · exact .inr (.inr fun tag htag tag' htag' =>
            ((h tag htag tag' htag').resolve_left hurl).resolve_left hfile)
    · rintro (hurl | hfile | hopens) tag htag tag' htag'
      · exact .inl hurl
      · exact .inr (.inl hfile)
      · exact .inr (.inr (hopens tag htag tag' htag'))

/-- It is not so that the tables of a declaration have the same source.  The text opens with the
first of the two tags, so that it is rules for this one and a path for the other. -/
theorem not_declare_same_source :
    ¬∀ (e : Engine) (d : Declaration) (s : Surroundings),
      ∀ t ∈ (e.declare d s).1, ∀ u ∈ (e.declare d s).1, t.source = u.source := by
  intro h
  let d : Declaration :=
    ⟨.domain, ["ads", "cn"], "ADS:domain:ads.example CN:domain:cn.example"⟩
  let sources := ((Engine.empty.declare d default).1).map Table.source
  have hsources : sources = [.inline d.source, .file d.source] := by decide +kernel
  have hsame : ∀ x ∈ sources, ∀ y ∈ sources, x = y :=
    List.forall_mem_map.mpr fun t ht => List.forall_mem_map.mpr (h Engine.empty d default t ht)
  rw [hsources] at hsame
  have hmixed : Source.inline d.source = .file d.source := hsame _ (by simp) _ (by simp)
  cases hmixed

end Engine

end TagRules
