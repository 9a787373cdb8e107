import Mathlib.Data.List.Basic
import Mathlib.Order.Bounds.Basic
import TagRules.Declaration

/-
  Manifests, read up to the first line that cannot be read or without such lines.

  After lines that can be read, the strict reader goes on as if it began with the next line
  and its number (`ofLinesFrom_append`), so it has the declarations that the lenient one has
  of the same lines.  Either all lines can be read, or there is a first that cannot
  (`allRead_or_stopsAt`), and the strict reader ends there with the number of that line,
  which is the least of any line that cannot be read (`StopsAt.isLeast`).
-/

namespace TagRules.Declaration

open Text

/-- The lines of a text with their numbers, from one on. -/
def numberedLines (text : List Char) : List (List Char × Nat) := (lines text).zipIdx 1

def failing (text : List Char) : Set Nat :=
  {number | ∃ line e, (line, number) ∈ numberedLines text ∧ ofNumberedLine number line = .error e}

/-- What lines declare, those left out that cannot be read. -/
def declarations (ls : List (List Char)) : List Declaration :=
  ls.filterMap fun line => (ofLine line).toOption.join

def AllRead (ls : List (List Char)) : Prop := ∀ line ∈ ls, ∃ d, ofLine line = .ok d

/-- The first line that cannot be read comes after so many lines. -/
structure StopsAt (ls : List (List Char)) (place : Nat) (fault : LineFault) : Prop where
  before : AllRead (ls.take place)
  line : ∃ line, ls[place]? = some line ∧ ofLine line = .error fault

variable {ls : List (List Char)} {line : List Char} {fault : LineFault} {number place : Nat}

/-! ## One line -/

theorem ofNumberedLine_of_ok {d : Option Declaration} (h : ofLine line = .ok d) (number : Nat) :
    ofNumberedLine number line = .ok d := by
  unfold ofNumberedLine
  rw [h]
  rfl

theorem ofNumberedLine_of_error (h : ofLine line = .error fault) (number : Nat) :
    ofNumberedLine number line = .error (.line number fault) := by
  unfold ofNumberedLine
  rw [h]
  rfl

theorem ofNumberedLine_eq_ok_iff {d : Option Declaration} :
    ofNumberedLine number line = .ok d ↔ ofLine line = .ok d := by
  cases h : ofLine line with
  | ok d => simp [ofNumberedLine_of_ok h]
  | error fault => simp [ofNumberedLine_of_error h]

theorem toOption_ofNumberedLine (number : Nat) (line : List Char) :
    (ofNumberedLine number line).toOption = (ofLine line).toOption := by
  cases h : ofLine line with
  | ok d => rw [ofNumberedLine_of_ok h]; rfl
  | error fault => rw [ofNumberedLine_of_error h]; rfl

theorem mem_numberedLines {text : List Char} :
    (line, number) ∈ numberedLines text ↔ ∃ place, number = place + 1 ∧
      (lines text)[place]? = some line := by
  unfold numberedLines
  rw [List.mem_zipIdx_iff_le_and_getElem?_sub]
  constructor
  · rintro ⟨hpos, hline⟩
    exact ⟨number - 1, by omega, hline⟩
  · rintro ⟨place, rfl, hline⟩
    exact ⟨Nat.le_add_left 1 place, hline⟩

/-! ## Lines one after the other -/

theorem ofLinesFrom_append {before : List (List Char)} (h : AllRead before) (number : Nat)
    (after : List (List Char)) :
    ofLinesFrom number (before ++ after) =
      (ofLinesFrom (number + before.length) after).map (declarations before ++ ·) := by
  induction before generalizing number with
  | nil =>
    rw [List.nil_append, List.length_nil, Nat.add_zero]
    cases ofLinesFrom number after <;> rfl
  | cons line rest ih =>
    obtain ⟨⟨d, hd⟩, hrest⟩ := List.forall_mem_cons.mp h
    have hnext : number + 1 + rest.length = number + (line :: rest).length := by
      rw [List.length_cons]
      omega
    have hdeclared : declarations (line :: rest) = d.toList ++ declarations rest := by
      unfold declarations
      rw [List.filterMap_cons, hd]
      cases d <;> rfl
    rw [List.cons_append, ofLinesFrom, ofNumberedLine_of_ok hd]
    dsimp only
    rw [ih hrest, hnext, hdeclared]
    cases ofLinesFrom (number + (line :: rest).length) after with
    | error e => rfl
    | ok ds => exact congrArg Except.ok (List.append_assoc ..).symm

theorem ofLinesFrom_allRead (h : AllRead ls) (number : Nat) :
    ofLinesFrom number ls = .ok (declarations ls) := by
  have happend := ofLinesFrom_append h number []
  rw [List.append_nil] at happend
  rw [happend]
  exact congrArg Except.ok (List.append_nil _)

/-- The first line that cannot be read is where the strict reader ends. -/
theorem StopsAt.ofLinesFrom (h : StopsAt ls place fault) (number : Nat) :
    ofLinesFrom number ls = .error (.line (number + place) fault) := by
  obtain ⟨line, hline, hfault⟩ := h.line
  obtain ⟨hlt, hget⟩ := List.getElem?_eq_some_iff.mp hline
  have hcut : ls.take place ++ line :: ls.drop (place + 1) = ls := by
    rw [← hget, ← List.drop_eq_getElem_cons hlt, List.take_append_drop]
  have hlength : (ls.take place).length = place := List.length_take_of_le (Nat.le_of_lt hlt)
  rw [← hcut, ofLinesFrom_append h.before, hlength, Declaration.ofLinesFrom,
    ofNumberedLine_of_error hfault]
  rfl

theorem allRead_or_stopsAt (ls : List (List Char)) :
    AllRead ls ∨ ∃ place fault, StopsAt ls place fault := by
  induction ls with
  | nil => exact .inl nofun
  | cons line rest ih =>
    cases hline : ofLine line with
    | error fault => exact .inr ⟨0, fault, nofun, line, rfl, hline⟩
    | ok d =>
      rcases ih with hall | ⟨place, fault, hstops⟩
      · exact .inl (List.forall_mem_cons.mpr ⟨⟨d, hline⟩, hall⟩)
      · have hbefore := List.forall_mem_cons.mpr ⟨⟨d, hline⟩, hstops.before⟩
        exact .inr ⟨place + 1, fault, hbefore, hstops.line⟩

/-! ## Texts -/

theorem AllRead.failing_eq {text : List Char} (h : AllRead (lines text)) : failing text = ∅ := by
  refine Set.eq_empty_of_forall_notMem ?_
  rintro number ⟨line, e, hline, he⟩
  obtain ⟨place, -, hget⟩ := mem_numberedLines.mp hline
  obtain ⟨d, hd⟩ := h line (List.mem_of_getElem? hget)
  rw [ofNumberedLine_of_ok hd] at he
  cases he

theorem StopsAt.isLeast {text : List Char} (h : StopsAt (lines text) place fault) :
    IsLeast (failing text) (place + 1) := by
  obtain ⟨line, hline, hfault⟩ := h.line
  constructor
  · exact ⟨line, _, mem_numberedLines.mpr ⟨place, rfl, hline⟩, ofNumberedLine_of_error hfault _⟩
  · rintro number ⟨other, e, hother, he⟩
    obtain ⟨before, rfl, hget⟩ := mem_numberedLines.mp hother
    by_contra hlt
    have htake : ((lines text).take place)[before]? = some other := by
      rw [List.getElem?_take_of_lt (by omega), hget]
    obtain ⟨d, hd⟩ := h.before other (List.mem_of_getElem? htake)
    rw [ofNumberedLine_of_ok hd] at he
    cases he

theorem ofManifestLenient_eq (text : List Char) :
    ofManifestLenient text = declarations (lines text) := by
  unfold ofManifestLenient declarations
  congr 1
  funext line
  cases ofLine line <;> rfl

theorem declarations_lines (text : List Char) :
    declarations (lines text) =
      (numberedLines text).filterMap fun (line, number) =>
        (ofNumberedLine number line).toOption.join := by
  have hlines : lines text = (numberedLines text).map Prod.fst := by
    unfold numberedLines
    rw [List.zipIdx_map_fst]
  unfold declarations
  rw [hlines, List.filterMap_map]
  refine List.filterMap_congr fun numbered _ => ?_
  exact congrArg Option.join (toOption_ofNumberedLine _ _).symm

/-- The lenient reader has what the lines declare that can be read, in their order.  The strict
reader has the same if there is no other line, and otherwise ends with the error of the first
line that cannot be read, which carries the least number of such a line. -/
theorem ofManifest_lenient (text : List Char) :
    (ofManifestLenient text =
      (numberedLines text).filterMap fun (line, number) =>
        (ofNumberedLine number line).toOption.join) ∧
    (∀ ds, ofManifest text = .ok ds ↔ failing text = ∅ ∧ ds = ofManifestLenient text) ∧
    ∀ e, ofManifest text = .error e ↔ ∃ number line fault, IsLeast (failing text) number ∧
      (line, number) ∈ numberedLines text ∧ ofNumberedLine number line = .error e ∧
      e = .line number fault := by
  refine ⟨(ofManifestLenient_eq text).trans (declarations_lines text), ?_⟩
  rcases allRead_or_stopsAt (lines text) with hall | ⟨place, fault, hstops⟩
  · have hread : ofManifest text = .ok (ofManifestLenient text) := by
      rw [ofManifestLenient_eq]
      exact ofLinesFrom_allRead hall 1
    have hnone := hall.failing_eq
    constructor
    · intro ds
      rw [hread, Except.ok.injEq, eq_comm]
      exact ⟨fun hds => ⟨hnone, hds⟩, fun h => h.2⟩
    · intro e
      rw [hread, hnone]
      refine ⟨nofun, ?_⟩
      rintro ⟨number, line, fault, hleast, -⟩
      exact absurd hleast.1 (Set.notMem_empty number)
  · -- The first line that cannot be read has the least number of all that cannot.
    obtain ⟨line, hline, hfault⟩ := hstops.line
    have hread : ofManifest text = .error (.line (place + 1) fault) := by
      rw [Nat.add_comm place 1]
      exact hstops.ofLinesFrom 1
    have hleast := hstops.isLeast
    constructor
    · intro ds
      rw [hread]
      refine ⟨nofun, ?_⟩
      rintro ⟨hnone, -⟩
      rw [hnone] at hleast
      exact absurd hleast.1 (Set.notMem_empty _)
    · intro e
      rw [hread, Except.error.injEq]
      constructor
      · rintro rfl
        exact ⟨place + 1, line, fault, hleast, mem_numberedLines.mpr ⟨place, rfl, hline⟩,
          ofNumberedLine_of_error hfault _, rfl⟩
      · rintro ⟨number, other, otherFault, hother, hmem, hotherFault, -⟩
        obtain rfl := hleast.unique hother
        obtain ⟨before, hbefore, hget⟩ := mem_numberedLines.mp hmem
        obtain rfl : place = before := Nat.succ.inj hbefore
        obtain rfl := Option.some.inj (hline.symm.trans hget)
        exact Except.error.inj ((ofNumberedLine_of_error hfault _).symm.trans hotherFault)

/-- The second line is the first that cannot be read. -/
example : ofManifest "keyword_table cn a.txt\nbogus_table cn b.txt\necs_table\n".toList =
    .error (.line 2 (.unknownKind "bogus_table")) := by decide +kernel

end TagRules.Declaration
