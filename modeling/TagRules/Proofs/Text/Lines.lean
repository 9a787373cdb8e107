import TagRules.Proofs.Text.Blank
import TagRules.Rules.Line
import TagRules.Text.Utf8

/-
  What the lines of some bytes say does not depend on other lines.

  A line feed ends whatever character was begun before it, so bytes are decoded on
  either side of it as if they stood alone (`ofUtf8Lossy_lineFeed`).  Text is then cut
  at line feeds, and a carriage return before one is dropped.  Text that ends with a
  carriage return keeps it, so its last line is another one when a line feed follows.
  That does no harm, because blanks at the end of a line say nothing: `said` is what
  rules are read from, and it is the same as if text were cut at line feeds alone
  (`said_eq_splitAll`).  So what both sides of a line feed say is what each side says
  (`said_lineFeed`).
-/

namespace TagRules.Text

/-! ## Decoding -/

theorem accepts_lineFeed (e : Expected) : e.accepts 0x0A = false := by
  cases e <;> rfl

theorem lead_lineFeed : lead 0x0A = .whole '\n' := rfl

/-- By induction on the bytes, whatever character they begin in. -/
theorem lossyAfter_lineFeed (state : Option (Nat × Expected)) (before after : Bytes) :
    lossyAfter state (before ++ 0x0A :: after) =
      lossyAfter state before ++ '\n' :: lossyAfter none after := by
  induction before generalizing state with
  | nil =>
    cases state with
    | none => simp [lossyAfter, lead_lineFeed]
    | some begun => simp [lossyAfter, accepts_lineFeed, lead_lineFeed]
  | cons b rest ih =>
    cases state with
    | none =>
      simp only [List.cons_append, lossyAfter]
      cases lead b <;> simp [ih]
    | some begun =>
      obtain ⟨bits, e⟩ := begun
      simp only [List.cons_append, lossyAfter]
      by_cases hb : e.accepts b = true
      · simp only [hb, if_true]
        cases e.next <;> simp [ih]
      · simp only [hb]
        cases lead b <;> simp [ih]

theorem ofUtf8Lossy_lineFeed (before after : Bytes) :
    ofUtf8Lossy (before ++ 0x0A :: after) = ofUtf8Lossy before ++ '\n' :: ofUtf8Lossy after :=
  lossyAfter_lineFeed none before after

/-! ## Cutting at line feeds -/

/-- Lines beside the parts between line feeds: a line that was ended may lack a carriage return,
and nothing after the last line feed is no line. -/
inductive Corresponds : List (List Char) → List (List Char) → Prop
  | none : Corresponds [] [[]]
  | last (part : List Char) : Corresponds [part] [part]
  | next {line part : List Char} {lines parts : List (List Char)}
      (h : part = line ∨ part = line ++ ['\r']) : Corresponds lines parts →
      Corresponds (line :: lines) (part :: parts)

theorem Corresponds.of_lines (cs : List Char) : Corresponds (lines cs) (splitAll '\n' cs) := by
  fun_induction lines cs with
  | case1 => exact .none
  | case2 rest ih => exact .next (.inl rfl) ih
  | case3 rest ih => exact .next (.inr rfl) ih
  | case4 c rest hc hcr hnil ih =>
    -- No line follows, so nothing is left but the part that the character is in.
    have hne : (c == '\n') = false := by
      rw [beq_eq_false_iff_ne]
      exact hc
    rw [hnil] at ih
    generalize hparts : splitAll '\n' rest = parts at ih
    cases ih with
    | none =>
      simp only [splitAll, hne, hparts]
      exact .last [c]
  | case5 c rest hc hcr line more hcons ih =>
    have hne : (c == '\n') = false := by
      rw [beq_eq_false_iff_ne]
      exact hc
    rw [hcons] at ih
    generalize hparts : splitAll '\n' rest = parts at ih
    simp only [splitAll, hne, hparts]
    cases ih with
    | last part => exact .last (c :: line)
    | next h ih =>
      refine .next ?_ ih
      rcases h with rfl | rfl
      · exact .inl rfl
      · exact .inr rfl

end TagRules.Text

/-! ## What lines say -/

namespace TagRules.Line

open Text

/-- What there is to read in some lines: what is left of each without comment and blanks. -/
def said (lines : List (List Char)) : List (List Char) :=
  (lines.map strip).filter fun line => !line.isEmpty

theorem readAll_eq_map_said {α : Type} (read : List Char → Line α) (lines : List (List Char)) :
    readAll read lines = (said lines).map read := rfl

theorem said_append (xs ys : List (List Char)) : said (xs ++ ys) = said xs ++ said ys := by
  simp [said]

theorem said_cons (line : List Char) (lines : List (List Char)) :
    said (line :: lines) = said [line] ++ said lines := said_append [line] lines

theorem strip_eq_trim {line : List Char} (h : '#' ∉ line) : strip line = trim line := by
  have hplain : ∀ c ∈ line, (c != '#') = true := by
    intro c hc
    rw [bne_iff_ne]
    rintro rfl
    exact h hc
  have hwhole : (line ++ []).takeWhile (· != '#') = line ++ [] :=
    List.takeWhile_append_of_pos hplain
  rw [List.append_nil] at hwhole
  unfold strip
  rw [hwhole]

theorem strip_append_return (line : List Char) : strip (line ++ ['\r']) = strip line := by
  have hblank : isBlank '\r' = true := by decide
  unfold strip
  rw [List.takeWhile_append]
  split
  · next hlength =>
    rw [(List.takeWhile_prefix _).eq_of_length hlength]
    exact trim_append_blank hblank line
  · rfl

theorem said_eq_of_corresponds {lines parts : List (List Char)} (h : Corresponds lines parts) :
    said lines = said parts := by
  induction h with
  | none => rfl
  | last part => rfl
  | @next line part lines parts h _ ih =>
    have hhead : said [line] = said [part] := by
      rcases h with rfl | rfl
      · rfl
      · simp [said, strip_append_return]
    rw [said_cons line, said_cons part, hhead, ih]

theorem said_eq_splitAll (cs : List Char) : said (lines cs) = said (splitAll '\n' cs) :=
  said_eq_of_corresponds (.of_lines cs)

theorem said_lineFeed (before after : Bytes) :
    said (lines (ofUtf8Lossy (before ++ 0x0A :: after))) =
      said (lines (ofUtf8Lossy before)) ++ said (lines (ofUtf8Lossy after)) := by
  simp only [said_eq_splitAll, ofUtf8Lossy_lineFeed, splitAll_append, said_append]

end TagRules.Line
