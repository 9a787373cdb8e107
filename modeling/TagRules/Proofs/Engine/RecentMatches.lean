import TagRules.Engine.RecentMatches

/-
  Where the rows of the memory come from.

  An answer is the class of a row that was there for the same tag and name and is still
  good (`exists_live_of_get`).  Looking up adds no row (`mem_of_mem_get`), and storing adds
  the one row that is stored (`eq_or_mem_of_mem_insert`); both may remove rows, which
  is all that recency, room and age do.  To look up in vain changes no answer of the same
  time (`get_after_none`).
-/

namespace TagRules.RecentMatches

variable {recent : RecentMatches} {now : Nat} {tag name : String} {cls : CountClass}
variable {row : MatchRow}

theorem isFor_iff : row.isFor tag name = true ↔ row.tag = tag ∧ row.name = name := by
  simp [MatchRow.isFor]

theorem mem_of_mem_others (h : row ∈ recent.others tag name) : row ∈ recent.rows :=
  (List.mem_filter.mp h).1

theorem exists_live_of_get (h : (recent.get now tag name).1 = some cls) :
    ∃ row ∈ recent.rows, (row.tag = tag ∧ row.name = name ∧ row.cls = cls) ∧
      now - row.stored < recent.ttl := by
  unfold get at h
  split at h
  · cases h
  · next row hfind =>
    obtain ⟨ht, hn⟩ := isFor_iff.mp (List.find?_some hfind)
    split at h
    · next hlive =>
      exact ⟨row, List.mem_of_find?_eq_some hfind, ⟨ht, hn, Option.some.inj h⟩,
        of_decide_eq_true hlive⟩
    · cases h

theorem exists_row_of_get (h : (recent.get now tag name).1 = some cls) :
    ∃ row ∈ recent.rows, row.tag = tag ∧ row.name = name ∧ row.cls = cls := by
  obtain ⟨row, hrow, hfor, -⟩ := exists_live_of_get h
  exact ⟨row, hrow, hfor⟩

theorem mem_of_mem_get (h : row ∈ (recent.get now tag name).2.rows) : row ∈ recent.rows := by
  unfold get at h
  split at h
  · exact h
  · next found hfind =>
    split at h
    · rcases List.mem_cons.mp h with rfl | h
      · exact List.mem_of_find?_eq_some hfind
      · exact mem_of_mem_others h
    · exact mem_of_mem_others h

theorem eq_or_mem_of_mem_insert (h : row ∈ (recent.insert now tag name cls).rows) :
    row = ⟨tag, name, cls, now⟩ ∨ row ∈ recent.rows := by
  rcases List.mem_cons.mp (List.mem_of_mem_take h) with rfl | h
  · exact .inl rfl
  · exact .inr (mem_of_mem_others h)

theorem get_fst (recent : RecentMatches) (now : Nat) (tag name : String) :
    (recent.get now tag name).1 =
      ((recent.rows.find? (MatchRow.isFor tag name)).filter (recent.isLive now)).map
        MatchRow.cls := by
  unfold get
  cases recent.rows.find? (MatchRow.isFor tag name) with
  | none => rfl
  | some row => cases hlive : recent.isLive now row <;> simp [Option.filter, hlive]

theorem find?_others (recent : RecentMatches) {tag name tag' name' : String}
    (h : ¬(tag' = tag ∧ name' = name)) :
    (recent.others tag name).find? (MatchRow.isFor tag' name') =
      recent.rows.find? (MatchRow.isFor tag' name') := by
  unfold others
  rw [List.find?_filter]
  congr 1
  funext row
  by_cases hfor : row.isFor tag' name' = true
  · obtain ⟨rfl, rfl⟩ := isFor_iff.mp hfor
    have hother : row.isFor tag name = false := Bool.eq_false_iff.mpr (h ∘ isFor_iff.mp)
    simp [hfor, hother]
  · simp [hfor]

theorem get_snd_of_none (h : (recent.get now tag name).1 = none) :
    (recent.get now tag name).2 = recent ∨
      (recent.get now tag name).2 = { recent with rows := recent.others tag name } := by
  unfold get at h ⊢
  split
  · exact .inl rfl
  · next row hfind =>
    rw [hfind] at h
    dsimp only at h
    split at h
    · cases h
    · next hlive =>
      rw [if_neg hlive]
      exact .inr rfl

/-- To look up in vain changes no other answer, and not this one either. -/
theorem get_after_none (h : (recent.get now tag name).1 = none) (tag' name' : String) :
    ((recent.get now tag name).2.get now tag' name').1 = (recent.get now tag' name').1 := by
  rcases get_snd_of_none h with heq | heq
  · rw [heq]
  rw [heq, get_fst]
  by_cases hsame : tag' = tag ∧ name' = name
  · obtain ⟨rfl, rfl⟩ := hsame
    rw [h, List.find?_eq_none.mpr]
    · rfl
    · intro row hrow
      simpa using (List.mem_filter.mp hrow).2
  · rw [get_fst, find?_others recent hsame]
    rfl

end TagRules.RecentMatches
