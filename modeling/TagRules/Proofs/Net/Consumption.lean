import TagRules.Net.AddressText

/-
  What readers take off the front of a text.

  `Consumes p read` says that the reader leaves the text from some place on, and that
  everything before that place satisfies `p`.  Readers made of others in sequence keep
  it (`Consumes.bind`).  An IPv4 address takes decimal digits and points
  (`Consumes.octets`), an IPv6 address also hexadecimal digits and colons
  (`Consumes.sixteens`).
-/

namespace TagRules.Net

open Text

def IsOctetChar (c : Char) : Prop := isDecimal c = true ∨ c = '.'

def IsAddressChar (c : Char) : Prop := isHex c = true ∨ c = '.' ∨ c = ':'

theorem digit?_none {c : Char} (h : hexDigit? c = none) (radix : Nat) : digit? radix c = none := by
  simp [digit?, h]

theorem isHex_of_digit? {radix : Nat} {c : Char} (h : (digit? radix c).isSome = true) :
    isHex c = true := by
  unfold isHex
  cases hc : hexDigit? c with
  | none =>
    rw [digit?_none hc] at h
    cases h
  | some d => rfl

theorem isAddressChar_of_isOctetChar {c : Char} (h : IsOctetChar c) : IsAddressChar c := by
  rcases h with h | h
  · exact .inl (isHex_of_digit? h)
  · exact .inr (.inl h)

theorem readChar_cons (c : Char) (rest : List Char) : readChar c (c :: rest) = some ((), rest) := by
  simp [readChar]

theorem of_readChar {c : Char} {cs rest : List Char} {u : Unit}
    (h : readChar c cs = some (u, rest)) : cs = c :: rest := by
  cases cs with
  | nil => cases h
  | cons d more =>
    simp only [readChar] at h
    split at h
    · next heq =>
      rw [heq, (Prod.mk.inj (Option.some.inj h)).2]
    · cases h

theorem of_readNumber {radix most : Nat} {cs run rest : List Char}
    (h : readNumber radix most cs = some (run, rest)) :
    cs = run ++ rest ∧ run ≠ [] ∧ run.length ≤ most ∧
      ∀ c ∈ run, (digit? radix c).isSome = true := by
  unfold readNumber at h
  simp only at h
  split at h
  · cases h
  · next hfits =>
    simp only [Bool.or_eq_true, List.isEmpty_iff, decide_eq_true_eq, not_or, Nat.not_lt] at hfits
    obtain ⟨rfl, rfl⟩ := Prod.mk.inj (Option.some.inj h)
    refine ⟨?_, hfits.1, hfits.2, fun c hc => List.all_eq_true.mp List.all_takeWhile c hc⟩
    exact (List.prefix_iff_eq_append.mp (List.takeWhile_prefix _)).symm

/-- `rest` is left of the text, and what was taken off its front satisfies `p`. -/
def Leaves (p : Char → Prop) (cs rest : List Char) : Prop :=
  ∃ run, cs = run ++ rest ∧ ∀ c ∈ run, p c

namespace Leaves

variable {p q : Char → Prop} {cs middle rest : List Char}

theorem refl (p : Char → Prop) (cs : List Char) : Leaves p cs cs :=
  ⟨[], rfl, fun _ hc => absurd hc List.not_mem_nil⟩

theorem one {c : Char} (h : p c) (rest : List Char) : Leaves p (c :: rest) rest :=
  ⟨[c], rfl, fun d hd => by rwa [List.mem_singleton.mp hd]⟩

theorem mono (h : Leaves p cs rest) (hpq : ∀ c, p c → q c) : Leaves q cs rest := by
  obtain ⟨run, heq, hrun⟩ := h
  exact ⟨run, heq, fun c hc => hpq c (hrun c hc)⟩

theorem trans (h : Leaves p cs middle) (h' : Leaves p middle rest) : Leaves p cs rest := by
  obtain ⟨run, rfl, hrun⟩ := h
  obtain ⟨more, rfl, hmore⟩ := h'
  refine ⟨run ++ more, (List.append_assoc run more rest).symm, ?_⟩
  intro c hc
  rcases List.mem_append.mp hc with hc | hc
  · exact hrun c hc
  · exact hmore c hc

theorem mem_rest (h : Leaves p cs rest) {c : Char} (hc : c ∈ cs) (hp : ¬p c) : c ∈ rest := by
  obtain ⟨run, rfl, hrun⟩ := h
  rcases List.mem_append.mp hc with hc | hc
  · exact absurd (hrun c hc) hp
  · exact hc

theorem mem (h : Leaves p cs rest) {c : Char} (hc : c ∈ rest) : c ∈ cs := by
  obtain ⟨run, rfl, -⟩ := h
  exact List.mem_append_right run hc

end Leaves

/-- What the reader takes off the front of a text has only characters of some kind. -/
structure Consumes {α : Type} (p : Char → Prop) (read : Reader α) : Prop where
  leaves : ∀ {cs x rest}, read cs = some (x, rest) → Leaves p cs rest

namespace Consumes

variable {α β : Type} {p q : Char → Prop}

theorem mono {read : Reader α} (h : Consumes p read) (hpq : ∀ c, p c → q c) : Consumes q read :=
  ⟨fun hread => (h.leaves hread).mono hpq⟩

theorem bind {read : Reader α} {next : α → Reader β} (h : Consumes p read)
    (hnext : ∀ a, Consumes p (next a)) :
    Consumes p fun cs => (read cs).bind fun answer => next answer.1 answer.2 := by
  constructor
  intro cs x rest hread
  obtain ⟨⟨a, middle⟩, hfirst, hsecond⟩ := Option.bind_eq_some_iff.mp hread
  exact (h.leaves hfirst).trans ((hnext a).leaves hsecond)

/-- A reader does not take a whole text with a character that it cannot take. -/
theorem whole_eq_none {read : Reader α} (h : Consumes p read) {cs : List Char} {c : Char}
    (hc : c ∈ cs) (hp : ¬p c) : whole read cs = none := by
  unfold whole
  split
  · next heq => exact absurd ((h.leaves heq).mem_rest hc hp) List.not_mem_nil
  · rfl

theorem ofSome (a : α) : Consumes p fun cs => some (a, cs) := by
  constructor
  intro cs x rest h
  rw [← (Prod.mk.inj (Option.some.inj h)).2]
  exact .refl p cs

theorem char {c : Char} (h : p c) : Consumes p (readChar c) := by
  constructor
  intro cs x rest hread
  rw [of_readChar hread]
  exact .one h rest

theorem number (radix most : Nat) :
    Consumes (fun c => (digit? radix c).isSome = true) (readNumber radix most) := by
  constructor
  intro cs run rest h
  obtain ⟨heq, -, -, hrun⟩ := of_readNumber h
  exact ⟨run, heq, hrun⟩

theorem octet (style : AddressStyle) :
    Consumes (fun c => isDecimal c = true) (readOctet style) := by
  constructor
  intro cs x rest h
  unfold readOctet at h
  obtain ⟨⟨run, more⟩, hread, h⟩ := Option.bind_eq_some_iff.mp h
  simp only at h
  split at h
  · cases h
  · split at h
    · rw [← (Prod.mk.inj (Option.some.inj h)).2]
      exact (number 10 3).leaves hread
    · cases h

theorem octets (style : AddressStyle) : Consumes IsOctetChar (readOctets style) := by
  have hnumber : Consumes IsOctetChar (readOctet style) := (octet style).mono fun _ => .inl
  have hpoint : Consumes IsOctetChar (readChar '.') := char (.inr rfl)
  have h := bind hnumber fun a => bind hpoint fun _ => bind hnumber fun b => bind hpoint fun _ =>
    bind hnumber fun c => bind hpoint fun _ => bind hnumber fun d => ofSome [a, b, c, d]
  exact h

theorem group : Consumes (fun c => isHex c = true) readGroup := by
  have h := bind ((number 16 4).mono fun _ => isHex_of_digit?) fun run => ofSome (value 16 run)
  exact h

theorem led {inner : Reader α} (first : Bool) (h : Consumes p inner) (hp : p ':') :
    Consumes p (afterColon first inner) := by
  cases first with
  | true => exact h
  | false =>
    have hled := bind (char hp) fun _ => h
    exact hled

/-- By induction on the room that is left. -/
theorem groups (style : AddressStyle) (first : Bool) (room : Nat) (cs : List Char) :
    Leaves IsAddressChar cs (readGroups style first room cs).2.2 := by
  have hcolon : IsAddressChar ':' := .inr (.inr rfl)
  have hoctets := (octets style).mono fun _ => isAddressChar_of_isOctetChar
  have hgroup := group.mono fun _ => (.inl : _ → IsAddressChar _)
  induction room generalizing first cs with
  | zero => exact .refl _ cs
  | succ room ih =>
    unfold readGroups
    split
    · next heq =>
      split at heq
      · cases heq
      · exact (hoctets.led first hcolon).leaves heq
    · split
      · exact .refl _ cs
      · next heq => exact ((hgroup.led first hcolon).leaves heq).trans (ih false _)

theorem sixteens (style : AddressStyle) : Consumes IsAddressChar (readSixteens style) := by
  constructor
  intro cs x rest h
  have hcolon : Consumes IsAddressChar (readChar ':') := char (.inr (.inr rfl))
  have hhead := groups style true 8 cs
  unfold readSixteens at h
  simp only at h
  split at h
  · rw [← (Prod.mk.inj (Option.some.inj h)).2]
    exact hhead
  · split at h
    · cases h
    · obtain ⟨one, hone, hmore⟩ := Option.bind_eq_some_iff.mp h
      obtain ⟨two, htwo, hsome⟩ := Option.bind_eq_some_iff.mp hmore
      rw [← (Prod.mk.inj (Option.some.inj hsome)).2]
      exact ((hhead.trans (hcolon.leaves hone)).trans (hcolon.leaves htwo)).trans (groups _ _ _ _)

theorem v4 (style : AddressStyle) : Consumes IsOctetChar (readV4 style) := by
  have h := bind (octets style) fun parts => ofSome (Address.wrap .v4 (Address.ofParts 8 parts))
  exact h

theorem v6 (style : AddressStyle) : Consumes IsAddressChar (readV6 style) := by
  have h := bind (sixteens style) fun parts => ofSome (Address.wrap .v6 (Address.ofParts 16 parts))
  exact h

end Consumes

end TagRules.Net
