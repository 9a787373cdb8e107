import TagRules.Proofs.Surroundings.Places
import TagRules.Proofs.Table.Loads

/-
  A table whose rules are in a file.

  A call looks at the file, and reads it only if it is to be taken in any case or the look
  shows something new.  The table keeps no content, only the look that went before the
  reading.  `lastTaken` finds look and content in the record of the calls: they are those
  of the latest call to replace the rules.  `Dated` says that what the table remembers is
  that look.  A new table remembers nothing, and every call keeps it so, also when the file
  is removed, comes back, cannot be read, or changes only its time or its size.

  From this `refresh_file` reads off what any call after any run returns, which content the
  rules are made from, and when they are those of the file as it is.
-/

namespace TagRules.Table

open Text

/-! ## What calls saw -/

/-- What there is of a file for a call: what the look shows, and the content when it comes to
reading. -/
structure Sighting where
  seen : Metadata
  content : Bytes

/-- What there was of a file at a path for a call, if there was one. -/
def Call.sighting? (path : String) (call : Call) : Option Sighting := do
  let seen ← (call.seen.files.metadata path).toOption
  let content ← call.later.content? path
  return ⟨seen, content⟩

/-- What there was for calls. -/
def sightings (path : String) (calls : List Call) : List Sighting :=
  calls.filterMap (Call.sighting? path)

/-- Of some files no two that look alike have different contents. -/
def LooksDiffer (found : List Sighting) : Prop :=
  ∀ f ∈ found, ∀ g ∈ found, f.seen = g.seen → f.content = g.content

/-- What a call took the rules from, if it replaced them. -/
def Call.taken? (path : String) (call : Call) : Option Sighting :=
  match call.result with
  | .ok (.reloaded _ _) => call.sighting? path
  | .ok .unchanged | .ok .static | .error _ => none

/-- What the latest call that replaced the rules took them from. -/
def lastTaken (path : String) (calls : List Call) : Option Sighting :=
  calls.reverse.findSome? (Call.taken? path)

theorem lastTaken_append (path : String) (calls : List Call) (call : Call) :
    lastTaken path (calls ++ [call]) = (call.taken? path).or (lastTaken path calls) :=
  findSome?_reverse_append (Call.taken? path) calls call

theorem lastTaken_mem {path : String} {calls : List Call} {last : Sighting}
    (h : lastTaken path calls = some last) : last ∈ sightings path calls := by
  obtain ⟨call, hcall, htaken⟩ := List.exists_of_findSome?_eq_some h
  refine List.mem_filterMap.mpr ⟨call, List.mem_reverse.mp hcall, ?_⟩
  unfold Call.taken? at htaken
  split at htaken
  · exact htaken
  · cases htaken
  · cases htaken
  · cases htaken

theorem content?_of_read {files : FileTree} {path : String} {content : Bytes}
    (h : files.read path = .ok content) : files.content? path = some content := by
  obtain ⟨f, hfile, -, rfl⟩ := FileTree.read_eq_ok.mp h
  exact FileTree.content?_eq_some.mpr ⟨f, rfl, FileTree.file_eq_ok.mp hfile⟩

/-! ## One call -/

theorem act_of_unseen {t : Table} {path : String} (hsource : t.source = .file path) {step : Step}
    {fault : FileFault} (hseen : step.seen.files.metadata path = .error fault) :
    step.act t = (.error (.file fault), t) := by
  rw [Step.act_eq, hsource]
  dsimp only [Source.view]
  rw [hseen]
  rfl

/-- How a call of a table in a file ends after a look at it: the file looks like the one last taken,
it cannot be read, or the rules are taken from it. -/
theorem act_of_seen {t : Table} {path : String} (hsource : t.source = .file path) {step : Step}
    {seen : Metadata} (hseen : step.seen.files.metadata path = .ok seen) :
    t.isCurrent step.forced (.file seen) = true ∧ step.act t = (.ok .unchanged, t) ∨
      t.isCurrent step.forced (.file seen) = false ∧
        ((∃ fault, step.later.read path = .error fault ∧
            step.act t = (.error (.file fault), t)) ∨
          ∃ content, step.later.read path = .ok content ∧
            step.act t = (.ok (t.publish ⟨.file seen, content⟩).1,
              (t.publish ⟨.file seen, content⟩).2)) := by
  rw [Step.act_eq, hsource]
  dsimp only [Source.view]
  rw [hseen]
  dsimp only [settle]
  cases t.isCurrent step.forced (.file seen) with
  | true => exact .inl ⟨rfl, rfl⟩
  | false =>
    refine .inr ⟨rfl, ?_⟩
    cases step.later.read path with
    | error fault => exact .inl ⟨fault, rfl, rfl⟩
    | ok content => exact .inr ⟨content, rfl, rfl⟩

theorem isCurrent_iff {t : Table} {force : Bool} {version : Source.Version} :
    t.isCurrent force version = true ↔ force = false ∧ t.version = some version := by
  unfold isCurrent
  rw [Bool.and_eq_true, Bool.not_eq_true', beq_iff_eq]

/-! ## What a table remembers -/

/-- A table remembers the look at the file that its rules were last taken from, and has the rules
of its content. -/
structure Dated (kind : TableKind) (tag path : String) (r : Run) : Prop where
  kind_eq : r.table.kind = kind
  tag_eq : r.table.tag = Tag.normalize tag
  source_eq : r.table.source = .file path
  version_eq : r.table.version = (lastTaken path r.calls).map fun last => .file last.seen
  rules_eq : ∀ last, lastTaken path r.calls = some last →
    r.table.rules = (RuleSet.ofBytes kind (Tag.normalize tag) last.content).1

theorem dated_start (kind : TableKind) (tag path : String) :
    Dated kind tag path (.start (create kind tag (.file path))) :=
  ⟨rfl, rfl, rfl, rfl, fun _ h => nomatch h⟩

namespace Dated

variable {kind : TableKind} {tag path : String} {r : Run}

theorem isCurrent_iff (h : Dated kind tag path r) (forced : Bool) (seen : Metadata) :
    r.table.isCurrent forced (.file seen) = true ↔
      forced = false ∧ (lastTaken path r.calls).map Sighting.seen = some seen := by
  rw [Table.isCurrent_iff, h.version_eq]
  cases lastTaken path r.calls <;> simp

theorem of_same (h : Dated kind tag path r) {step : Step} (htable : (step.act r.table).2 = r.table)
    (htaken : (step.call r.table).taken? path = none) : Dated kind tag path (r.step step) := by
  have hlast : lastTaken path (r.step step).calls = lastTaken path r.calls := by
    rw [Run.step, lastTaken_append, htaken]
    exact Option.none_or
  have hsame : (r.step step).table = r.table := htable
  refine ⟨?_, ?_, ?_, ?_, ?_⟩
  · rw [hsame, h.kind_eq]
  · rw [hsame, h.tag_eq]
  · rw [hsame, h.source_eq]
  · rw [hsame, hlast, h.version_eq]
  · rw [hsame, hlast]
    exact h.rules_eq

theorem lastTaken_step {step : Step} {content : Bytes}
    (hseen : step.seen.files.metadata path = .ok seen) (hread : step.later.read path = .ok content)
    (hact : step.act r.table =
      (.ok (r.table.publish ⟨.file seen, content⟩).1,
        (r.table.publish ⟨.file seen, content⟩).2)) :
    lastTaken path (r.step step).calls = some ⟨seen, content⟩ := by
  rw [Run.step, lastTaken_append]
  unfold Step.call Call.taken? Call.sighting?
  rw [hact, hseen, content?_of_read hread]
  rfl

theorem step (h : Dated kind tag path r) (step : Step) : Dated kind tag path (r.step step) := by
  cases hseen : step.seen.files.metadata path with
  | error fault =>
    have hact := act_of_unseen h.source_eq hseen
    exact h.of_same (by rw [hact]) (by rw [Step.call, hact]; rfl)
  | ok seen =>
    rcases act_of_seen h.source_eq hseen with
      ⟨-, hact⟩ | ⟨-, ⟨fault, -, hact⟩ | ⟨content, hread, hact⟩⟩
    · exact h.of_same (by rw [hact]) (by rw [Step.call, hact]; rfl)
    · exact h.of_same (by rw [hact]) (by rw [Step.call, hact]; rfl)
    · -- Only here the table is another one, and the call is the latest that took anything.
      obtain ⟨hkind, htag, hsource⟩ := step.act_frame r.table
      have hlast := lastTaken_step hseen hread hact
      refine ⟨hkind.trans h.kind_eq, htag.trans h.tag_eq, hsource.trans h.source_eq, ?_, ?_⟩
      · rw [hlast]
        show (step.act r.table).2.version = _
        rw [hact]
        rfl
      · intro last hsame
        obtain rfl := Option.some.inj (hlast.symm.trans hsame)
        show (step.act r.table).2.rules = _
        rw [hact, ← h.kind_eq, ← h.tag_eq]
        rfl

theorem take (h : Dated kind tag path r) (steps : List Step) :
    Dated kind tag path (r.take steps) := by
  induction steps generalizing r with
  | nil => exact h
  | cons next rest ih => exact ih (h.step next)

/-- A table that remembers a look has the rules of the content that it was taken with. -/
theorem exists_lastTaken {seen : Metadata} (h : Dated kind tag path r)
    (hversion : r.table.version = some (.file seen)) :
    ∃ last, lastTaken path r.calls = some last ∧ last.seen = seen ∧
      r.table.rules = (RuleSet.ofBytes kind (Tag.normalize tag) last.content).1 := by
  rw [h.version_eq, Option.map_eq_some_iff] at hversion
  obtain ⟨last, hlast, hseen⟩ := hversion
  exact ⟨last, hlast, Source.Version.file.inj hseen, h.rules_eq last hlast⟩

end Dated

/-- After a call that did not fail the table remembers its look, whether it took the rules or
not. -/
theorem version_act {t : Table} {path : String} (hsource : t.source = .file path) {step : Step}
    {seen : Metadata} (hseen : step.seen.files.metadata path = .ok seen)
    (hok : (step.act t).1.isOk = true) : (step.act t).2.version = some (.file seen) := by
  rcases act_of_seen hsource hseen with
    ⟨hcurrent, hact⟩ | ⟨-, ⟨fault, -, hact⟩ | ⟨content, -, hact⟩⟩
  · rw [hact]
    exact (isCurrent_iff.mp hcurrent).2
  · rw [hact] at hok
    cases hok
  · rw [hact]
    rfl

theorem act_again {t : Table} {path : String} (hsource : t.source = .file path) {seen : Metadata}
    (hversion : t.version = some (.file seen)) {again : Step} (hforced : again.forced = false)
    (hseen : again.seen.files.metadata path = .ok seen) : again.act t = (.ok .unchanged, t) := by
  have hcurrent : t.isCurrent again.forced (.file seen) = true :=
    isCurrent_iff.mpr ⟨hforced, hversion⟩
  rcases act_of_seen hsource hseen with ⟨-, hact⟩ | ⟨hnew, -⟩
  · exact hact
  · exact absurd hcurrent (by simp [hnew])

/-- After any calls, a call of a table in a file fails if the file cannot be looked at, and leaves
the table as it was.  Otherwise it returns that nothing changed exactly if it was not forced and the
table was read before, after a look that showed the same time and size.  If not, it reads: it fails
and leaves the table as it was if the file cannot be read, and else it returns how many rules there
are and how many lines were skipped.

Unless it failed, the rules are those of the content last taken, and those of the content as it is,
if no two files that the calls found look alike and have different contents.  While the file looks
as it does a call that is not forced then does nothing. -/
theorem refresh_file (kind : TableKind) (tag path : String) (steps : List Step) (next : Step) :
    let r := (Run.start (create kind tag (.file path))).take steps
    let after := r.step next
    let result := (next.act r.table).1
    let made := fun content : Bytes =>
      RuleSet.ofLines kind (Tag.normalize tag) (lines (ofUtf8Lossy content))
    match next.seen.files.metadata path with
    | .error fault => result = .error (.file fault) ∧ after.table = r.table
    | .ok seen =>
      (result = .ok .unchanged ↔ next.forced = false ∧ r.table.wasRead = true ∧
        (lastTaken path r.calls).map Sighting.seen = some seen) ∧
      (result ≠ .ok .unchanged →
        match next.later.read path with
        | .error fault => result = .error (.file fault) ∧ after.table = r.table
        | .ok content => result = .ok (.reloaded (made content).1.size (made content).2)) ∧
      (result.isOk = true →
        (∃ last, lastTaken path after.calls = some last ∧
          after.table.rules = (made last.content).1) ∧
        (LooksDiffer (sightings path after.calls) →
          ∀ content, next.later.content? path = some content →
            after.table.rules = (made content).1) ∧
        ∀ again : Step, again.forced = false → again.seen.files.metadata path = .ok seen →
          again.act after.table = (.ok .unchanged, after.table)) := by
  intro r after result made
  have hr : Dated kind tag path r := (dated_start kind tag path).take steps
  have hafter : Dated kind tag path after := hr.step next
  have hwasRead : ∀ seen, (lastTaken path r.calls).map Sighting.seen = some seen →
      r.table.wasRead = true := by
    intro seen hlast
    obtain ⟨last, htaken, -⟩ := Option.map_eq_some_iff.mp hlast
    rw [wasRead, hr.version_eq, htaken]
    rfl
  cases hseen : next.seen.files.metadata path with
  | error fault =>
    have hact := act_of_unseen hr.source_eq hseen
    exact ⟨congrArg Prod.fst hact, congrArg Prod.snd hact⟩
  | ok seen =>
    have hcurrent := hr.isCurrent_iff next.forced seen
    refine ⟨?_, ?_, fun hok => ?_⟩
    · rw [and_left_comm, and_iff_right_of_imp fun h => hwasRead seen h.2, ← hcurrent]
      rcases act_of_seen hr.source_eq hseen with
        ⟨hsame, hact⟩ | ⟨hnew, ⟨fault, -, hact⟩ | ⟨content, -, hact⟩⟩
      · simp [result, hact, hsame]
      · simp [result, hact, hnew]
      · simp [result, hact, hnew, publish]
    · intro hchanged
      rcases act_of_seen hr.source_eq hseen with
        ⟨-, hact⟩ | ⟨-, ⟨fault, hread, hact⟩ | ⟨content, hread, hact⟩⟩
      · exact absurd (congrArg Prod.fst hact) hchanged
      · rw [hread]
        exact ⟨congrArg Prod.fst hact, congrArg Prod.snd hact⟩
      · rw [hread]
        show (next.act r.table).1 = _
        rw [hact, publish, RuleSet.ofBytes, hr.kind_eq, hr.tag_eq]
    · have hversion : after.table.version = some (.file seen) :=
        version_act hr.source_eq hseen hok
      obtain ⟨last, hlast, rfl, hrules⟩ := hafter.exists_lastTaken hversion
      refine ⟨⟨last, hlast, hrules⟩, fun hdiffer content hcontent => ?_,
        fun again hforced hagain => act_again hafter.source_eq hversion hforced hagain⟩
      -- Whatever was taken last looks like the file that the call found.
      have hfound : (⟨last.seen, content⟩ : Sighting) ∈ sightings path after.calls := by
        refine List.mem_filterMap.mpr ⟨next.call r.table, List.mem_append_right _ (by simp), ?_⟩
        simp [Call.sighting?, Step.call, hseen, hcontent, Except.toOption]
      rw [show content = last.content from hdiffer _ hfound last (lastTaken_mem hlast) rfl]
      exact hrules

/-- Surroundings in which a file is at a path and there is nothing else. -/
def holding (path : String) (f : File) : Surroundings :=
  ⟨(FileTree.empty 0).put [path] (.file f), .empty true⟩

/-- A file that is written anew with the same size is taken again. -/
theorem refresh_file_rewritten :
    let first := Step.amidNothing true 30 (holding "ads.txt" ⟨[0x61], 0, true⟩)
    let next := Step.amidNothing false 30 (holding "ads.txt" ⟨[0x62], 1, true⟩)
    let r := (Run.start (create .keyword "ads" (.file "ads.txt"))).take [first]
    let after := r.step next
    (next.act r.table).1.isOk = true ∧ LooksDiffer (sightings "ads.txt" after.calls) ∧
      after.table.rules = (RuleSet.ofLines .keyword "ADS" [['b']]).1 := by
  intro first next r after
  have hok : (next.act r.table).1.isOk = true := by decide +kernel
  have hdiffer : LooksDiffer (sightings "ads.txt" after.calls) := by
    rw [show sightings "ads.txt" after.calls = [⟨⟨0, 1⟩, [0x61]⟩, ⟨⟨1, 1⟩, [0x62]⟩] from rfl]
    unfold LooksDiffer
    decide
  refine ⟨hok, hdiffer, ?_⟩
  have hcall := refresh_file .keyword "ads" "ads.txt" [first] next
  have hseen : next.seen.files.metadata "ads.txt" = .ok ⟨1, 1⟩ := rfl
  have hcontent : next.later.content? "ads.txt" = some [0x62] := rfl
  simp only [hseen] at hcall
  have htag : Tag.normalize "ads" = "ADS" := by decide +kernel
  have hlines : lines (ofUtf8Lossy [0x62]) = [['b']] := by decide +kernel
  obtain ⟨-, -, hdone⟩ := hcall
  obtain ⟨-, hrules, -⟩ := hdone hok
  have hrules := hrules hdiffer _ hcontent
  rw [htag, hlines] at hrules
  exact hrules

end TagRules.Table
