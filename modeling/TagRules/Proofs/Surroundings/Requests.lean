import TagRules.Surroundings

/-
  What requests change.

  A request is counted, and by its number it has an answer.  So a request for one URL makes no
  difference to the others (`answer_count_of_ne`), but the next one for the same URL may get
  something else.  A remote side is `Steady` if it does not: then requests change no answer
  (`Steady.answer_count`).

  `OnlyRequests` says of two surroundings that nothing but requests lies between them.
-/

namespace TagRules

open Text

namespace Remote

@[simp]
theorem isOnline_count (r : Remote) (url : String) (timeout : Nat) :
    (r.count url timeout).isOnline = r.isOnline := by
  unfold count
  split <;> rfl

@[simp]
theorem bodies_count (r : Remote) (url : String) (timeout : Nat) :
    (r.count url timeout).bodies = r.bodies := by
  unfold count
  split <;> rfl

theorem getElem?_count (r : Remote) (url : String) (timeout : Nat) (other : String) :
    (r.count url timeout).requests[other]? =
      if r.isOnline = true ∧ url = other then some ⟨r.asked url + 1, timeout⟩
      else r.requests[other]? := by
  unfold count
  by_cases honline : r.isOnline = true
  · simp only [honline, if_true, true_and, Std.ExtTreeMap.getElem?_insert, Std.compare_eq_iff_eq]
  · rw [if_neg honline, if_neg fun h => honline h.1]

theorem asked_count (r : Remote) (url : String) (timeout : Nat) (other : String) :
    (r.count url timeout).asked other =
      r.asked other + if r.isOnline = true ∧ url = other then 1 else 0 := by
  rw [asked, getElem?_count]
  split
  · next h =>
    rw [h.2]
    rfl
  · rfl

theorem count_comm (r : Remote) (url other : String) (timeout : Nat) :
    (r.count url timeout).count other timeout = (r.count other timeout).count url timeout := by
  have hrequests : ((r.count url timeout).count other timeout).requests =
      ((r.count other timeout).count url timeout).requests := by
    apply Std.ExtTreeMap.ext_getElem?
    intro key
    simp only [getElem?_count, asked_count, isOnline_count]
    by_cases hsame : url = other
    · rw [hsame]
    · by_cases hurl : url = key
      · have hother : ¬other = key := fun h => hsame (hurl.trans h.symm)
        simp [hurl, hother]
      · simp [hurl, hsame]
  obtain ⟨isOnline, bodies, requests⟩ := r
  cases isOnline with
  | false => rfl
  | true => exact congrArg (Remote.mk true bodies) hrequests

/-! ## Answers -/

theorem answer_congr {r r' : Remote} {url : String} (honline : r'.isOnline = r.isOnline)
    (hbody : r'.bodies url (r'.asked url) = r.bodies url (r.asked url)) :
    r'.answer url = r.answer url := by
  unfold answer
  rw [honline, hbody]

theorem answer_count_of_ne (r : Remote) {url other : String} (h : url ≠ other) (timeout : Nat) :
    (r.count url timeout).answer other = r.answer other := by
  refine answer_congr (r.isOnline_count url timeout) ?_
  rw [bodies_count, asked_count, if_neg fun hsame => h hsame.2, Nat.add_zero]

theorem answer_eq_ok {r : Remote} {url : String} {body : Bytes} :
    r.answer url = .ok body ↔ r.isOnline = true ∧ r.bodies url (r.asked url) = some body := by
  unfold answer
  cases r.isOnline <;> cases r.bodies url (r.asked url) <;> simp

@[simp]
theorem answer_setBody_empty (url : String) (body : Bytes) :
    ((Remote.empty true).setBody url body).answer url = .ok body := by
  simp [answer_eq_ok, setBody, setAll, empty]

/-- Every URL goes on giving what it gives next. -/
def Steady (r : Remote) : Prop :=
  ∀ url n, r.asked url ≤ n → r.bodies url n = r.bodies url (r.asked url)

theorem Steady.setAll {r : Remote} (h : r.Steady) (url : String) (body : Option Bytes) :
    (r.setAll url body).Steady := by
  intro other n hn
  by_cases hsame : other = url
  · simp [Remote.setAll, hsame]
  · have hbodies : (r.setAll url body).bodies other = r.bodies other := if_neg hsame
    rw [hbodies]
    exact h other n hn

theorem empty_steady (isOnline : Bool) : (Remote.empty isOnline).Steady := fun _ _ _ => rfl

/-! ## Later states -/

/-- Nothing but requests lies between the one state of the remote side and the other. -/
structure Later (r r' : Remote) : Prop where
  isOnline_eq : r'.isOnline = r.isOnline
  bodies_eq : r'.bodies = r.bodies
  asked_le : ∀ url, r.asked url ≤ r'.asked url

/-- A body that one of the requests between two states of the remote side got. -/
def Gave (r r' : Remote) (url : String) (body : Bytes) : Prop :=
  r.isOnline = true ∧ ∃ n, r.asked url ≤ n ∧ n < r'.asked url ∧ r.bodies url n = some body

namespace Later

variable {r r' r'' : Remote}

theorem refl (r : Remote) : Later r r := ⟨rfl, rfl, fun _ => Nat.le_refl _⟩

theorem trans (h : Later r r') (h' : Later r' r'') : Later r r'' :=
  ⟨h'.isOnline_eq.trans h.isOnline_eq, h'.bodies_eq.trans h.bodies_eq,
    fun url => Nat.le_trans (h.asked_le url) (h'.asked_le url)⟩

theorem count (r : Remote) (url : String) (timeout : Nat) : Later r (r.count url timeout) where
  isOnline_eq := r.isOnline_count url timeout
  bodies_eq := r.bodies_count url timeout
  asked_le other := by
    rw [asked_count]
    exact Nat.le_add_right _ _

/-- While every URL goes on giving the same, requests change no answer. -/
theorem answer_eq (h : Later r r') (hr : r.Steady) (url : String) :
    r'.answer url = r.answer url := by
  refine answer_congr h.isOnline_eq ?_
  rw [h.bodies_eq]
  exact hr url _ (h.asked_le url)

theorem steady (h : Later r r') (hr : r.Steady) : r'.Steady := by
  intro url n hn
  rw [h.bodies_eq]
  exact (hr url n (Nat.le_trans (h.asked_le url) hn)).trans (hr url _ (h.asked_le url)).symm

theorem gave {url : String} {body : Bytes} (h : Later r r') (hgave : r'.Gave r'' url body) :
    r.Gave r'' url body := by
  obtain ⟨honline, n, hfrom, hto, hbody⟩ := hgave
  rw [h.bodies_eq] at hbody
  exact ⟨h.isOnline_eq ▸ honline, n, Nat.le_trans (h.asked_le url) hfrom, hto, hbody⟩

end Later

theorem Gave.later {r r' r'' : Remote} {url : String} {body : Bytes} (hgave : r.Gave r' url body)
    (h : Later r' r'') : r.Gave r'' url body := by
  obtain ⟨honline, n, hfrom, hto, hbody⟩ := hgave
  exact ⟨honline, n, hfrom, Nat.lt_of_lt_of_le hto (h.asked_le url), hbody⟩

theorem gave_count {r : Remote} {url : String} {body : Bytes} (h : r.answer url = .ok body)
    (timeout : Nat) : r.Gave (r.count url timeout) url body := by
  obtain ⟨honline, hbody⟩ := answer_eq_ok.mp h
  refine ⟨honline, r.asked url, Nat.le_refl _, ?_, hbody⟩
  rw [asked_count, if_pos ⟨honline, rfl⟩]
  exact Nat.lt_succ_self _

end Remote

namespace Surroundings

/-- Nothing but requests lies between the one and the other. -/
structure OnlyRequests (s s' : Surroundings) : Prop where
  files_eq : s'.files = s.files
  later : s.remote.Later s'.remote

namespace OnlyRequests

variable {s s' s'' : Surroundings}

theorem refl (s : Surroundings) : OnlyRequests s s := ⟨rfl, .refl _⟩

theorem trans (h : OnlyRequests s s') (h' : OnlyRequests s' s'') : OnlyRequests s s'' :=
  ⟨h'.files_eq.trans h.files_eq, h.later.trans h'.later⟩

end OnlyRequests

end Surroundings

end TagRules
