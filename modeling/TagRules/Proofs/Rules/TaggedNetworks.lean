import TagRules.Proofs.Net.WordBefore
import TagRules.Proofs.Rules.NetworkSearch
import TagRules.Proofs.Text.Lines
import TagRules.Rules.RuleSet

/-
  Lines that give a network to a tag.

  Such a line is the tag, a colon and the network as it is written.  It is read for
  every tag, as an entry for its own and as nothing for any other, unless the whole line
  is a network.  That is tried first, so a tag of up to four hexadecimal digits becomes
  the first group of an IPv6 address that has room for one (`readNetwork_line`); the
  line is then an entry for every tag, and not the one that was written.
-/

namespace TagRules

open Net Text

/-- A tag that can stand before the colon of a line. -/
structure LineTag where
  chars : List Char
  canonical : Tag.canonical chars = chars
  nonempty : chars ≠ []
  plain : ∀ c ∈ chars, c ≠ ':' ∧ c ≠ '#' ∧ isBlank c = false

namespace LineTag

/-- The tag of a table. -/
def name (tag : LineTag) : String := String.ofList tag.chars

/-- The line that gives the network to the tag. -/
def line (tag : LineTag) (n : Network) : List Char := tag.chars ++ ':' :: n.write

theorem spells_iff (owner : LineTag) (tag : String) :
    Tag.spells tag owner.chars = true ↔ tag = owner.name := by
  unfold Tag.spells
  rw [owner.canonical, beq_iff_eq]
  exact eq_comm

theorem colon_notMem (tag : LineTag) : ':' ∉ tag.chars := fun h => (tag.plain ':' h).1 rfl

theorem line_ne_nil (tag : LineTag) (n : Network) : tag.line n ≠ [] := by simp [line]

theorem plain_of_mem_line {tag : LineTag} {n : Network} {c : Char} (h : c ∈ tag.line n) :
    c ≠ '#' ∧ isBlank c = false := by
  rcases List.mem_append.mp h with h | h
  · exact (tag.plain c h).2
  · rcases List.mem_cons.mp h with rfl | h
    · decide
    · exact ⟨fun hc => n.sharp_notMem_write (hc ▸ h), Network.isBlank_of_mem_write h⟩

theorem trim_line (tag : LineTag) (n : Network) : trim (tag.line n) = tag.line n :=
  trim_of_no_blank fun _ hc => (plain_of_mem_line hc).2

theorem strip_line (tag : LineTag) (n : Network) : Line.strip (tag.line n) = tag.line n := by
  rw [Line.strip_eq_trim fun hc => (plain_of_mem_line hc).1 rfl, trim_line]

end LineTag

/-- As a whole, the line is a network in the exceptional case only. -/
theorem LineTag.ofRule?_line (owner : LineTag) (n : Network) :
    Network.ofRule? (owner.line n) =
      if IsGroupWord owner.chars ∧ n.address.ElidesLater then
        some (n.absorb owner.chars).truncate
      else none := by
  have hslash : '/' ∈ owner.line n := by simp [line, n.slash_mem_write]
  have hwhole : Network.ofChars? (owner.line n) = _ :=
    Network.ofChars?_word owner.nonempty owner.colon_notMem n
  unfold Network.ofRule?
  simp only [owner.trim_line]
  by_cases h : IsGroupWord owner.chars ∧ n.address.ElidesLater
  · rw [if_pos h] at hwhole ⊢
    rw [hwhole]
  · rw [if_neg h] at hwhole ⊢
    rw [hwhole, Address.ofChars?_eq_none hslash]
    rfl

theorem Line.readNetwork_line (owner : LineTag) (n : Network) (tag : String) :
    readNetwork tag (owner.line n) =
      if IsGroupWord owner.chars ∧ n.address.ElidesLater then
        entry (n.absorb owner.chars).truncate
      else if tag = owner.name then entry n.truncate
      else foreign := by
  have hcut : cut? (· == ':') (owner.line n) = some (owner.chars, n.write) :=
    cut?_append owner.colon_notMem n.write
  unfold readNetwork
  rw [owner.ofRule?_line n]
  by_cases h : IsGroupWord owner.chars ∧ n.address.ElidesLater
  · simp only [if_pos h]
  · simp only [if_neg h, hcut, Network.ofRule?_write, owner.spells_iff]

namespace NetworkRules

theorem sort_add_empty (n : Network) : ((empty.add n).sort).1 = ⟨#[n.truncate], true⟩ := by
  have harrange : arrange [n.truncate] = [n.truncate] := by
    unfold arrange
    rw [List.mergeSort_singleton]
    rfl
  show (⟨(arrange [n.truncate]).toArray, true⟩ : NetworkRules) = _
  rw [harrange]

end NetworkRules

namespace RuleSet

theorem readAll_line (owner : LineTag) (n : Network) (tag : String) :
    Line.readAll (Line.readNetwork tag) [owner.line n] = [Line.readNetwork tag (owner.line n)] := by
  simp [Line.readAll, owner.strip_line, owner.line_ne_nil]

theorem ofLines_of_entry {owner : LineTag} {n m : Network} {tag : String}
    (h : Line.readNetwork tag (owner.line n) = .entry m) :
    ofLines .network tag [owner.line n] = (network ⟨#[m.truncate], true⟩, 0) := by
  unfold ofLines
  simp only [readAll_line, h]
  simp [Line.entries, Line.skipped, NetworkRules.sort_add_empty]

theorem ofLines_of_foreign {owner : LineTag} {n : Network} {tag : String}
    (h : Line.readNetwork tag (owner.line n) = .foreign) :
    ofLines .network tag [owner.line n] = (network NetworkRules.empty, 0) := by
  unfold ofLines
  simp only [readAll_line, h]
  rfl

/-- A line that gives a network to a tag puts exactly that network into the table of the tag and
nothing into that of any other, and is never skipped.  The exception are tags that are groups of
up to four hexadecimal digits, with networks that elide some groups after their first: then the
line is another network, and every table takes that. -/
theorem ofLines_line (owner : LineTag) (n : Network) (tag : String) :
    ofLines .network tag [owner.line n] =
      if IsGroupWord owner.chars ∧ n.address.ElidesLater then
        (network ⟨#[(n.absorb owner.chars).truncate], true⟩, 0)
      else if tag = owner.name then (network ⟨#[n.truncate], true⟩, 0)
      else (network NetworkRules.empty, 0) := by
  have hread := Line.readNetwork_line owner n tag
  split
  · next h =>
    rw [if_pos h] at hread
    rw [ofLines_of_entry hread, Network.truncate_truncate]
  · next h =>
    rw [if_neg h] at hread
    split
    · next htag =>
      rw [if_pos htag] at hread
      rw [ofLines_of_entry hread, Network.truncate_truncate]
    · next htag =>
      rw [if_neg htag] at hread
      exact ofLines_of_foreign hread

/-- The exception occurs: the line that gives the network `2001:db8::/32` to the tag `DE` is the
network `de:2001:db8::/32`. -/
theorem not_ofLines_line_given :
    ¬∀ (owner : LineTag) (n : Network), n.truncate = n →
      ofLines .network owner.name [owner.line n] = (network ⟨#[n], true⟩, 0) ∧
        ∀ tag, Tag.normalize tag = tag → tag ≠ owner.name →
          ofLines .network tag [owner.line n] = (network NetworkRules.empty, 0) := by
  intro hall
  have hplain : ∀ c ∈ ['D', 'E'], c ≠ ':' ∧ c ≠ '#' ∧ isBlank c = false := by
    refine List.forall_mem_cons.mpr ⟨by decide, ?_⟩
    exact List.forall_mem_cons.mpr ⟨by decide, List.forall_mem_nil _⟩
  let owner : LineTag := ⟨['D', 'E'], by decide, by decide, hplain⟩
  let n : Network := ⟨⟨.v6, 0x20010DB8 * blockSize 96, by decide⟩, 32, by decide⟩
  have hcase : IsGroupWord ['D', 'E'] ∧ n.address.ElidesLater := by decide +kernel
  have hother : (n.absorb ['D', 'E']).truncate.truncate ≠ n := by decide +kernel
  have hread := Line.readNetwork_line owner n owner.name
  rw [if_pos hcase] at hread
  have hgiven := (hall owner n (by decide)).1
  rw [ofLines_of_entry hread] at hgiven
  simp only [Prod.mk.injEq, network.injEq, NetworkRules.mk.injEq] at hgiven
  exact hother (by simpa using hgiven.1.1)

end RuleSet

end TagRules
