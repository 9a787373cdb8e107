import TagRules.Net.NetworkText
import TagRules.Proofs.Net.AddressText
import TagRules.Proofs.Net.Blocks

/-
  Reading a written network gives the network back.

  A network is written with a slash and an address is not.  So the reader of networks
  takes no written address (`ofChars?_eq_none`), and a rule that names an address names
  its host network (`ofRule?_address`).
-/

namespace TagRules.Net.Network

open Text

theorem slash_mem_write (n : Network) : '/' ∈ n.write := by simp [write]

theorem of_mem_write {n : Network} {c : Char} (h : c ∈ n.write) : IsAddressChar c ∨ c = '/' := by
  rcases List.mem_append.mp h with h | h
  · exact .inl (Address.isAddressChar_write h)
  · rcases List.mem_cons.mp h with h | h
    · exact .inr h
    · exact .inl (.inl (isHex_of_digit? (digit?_of_mem_digits (by decide) (by decide) h)))

theorem isBlank_of_mem_write {n : Network} {c : Char} (h : c ∈ n.write) : isBlank c = false := by
  rcases of_mem_write h with h | rfl
  · exact isBlank_of_isAddressChar h
  · rfl

theorem sharp_notMem_write (n : Network) : '#' ∉ n.write := by
  intro h
  rcases of_mem_write h with (h | h | h) | h <;> cases h

theorem trim_write (n : Network) : trim n.write = n.write :=
  trim_of_no_blank fun _ hc => isBlank_of_mem_write hc

/-! ## Written networks -/

theorem length_le_128 (n : Network) : n.length ≤ 128 :=
  Nat.le_trans n.length_le (by cases n.address.family <;> decide)

theorem readLength_digits {most : Nat} (n : Network) (hm : 0 < most)
    (hl : n.length < Nat.pow 10 most) :
    readLength most n.address ('/' :: digits 10 n.length) = some (n, []) := by
  have hread := readNumber_digits (by decide : 1 < 10) (by decide) hm hl noDigit_nil
  have hvalue : value 10 (digits 10 n.length) = n.length := value_digits (by decide) (by decide) _
  rw [List.append_nil] at hread
  unfold readLength
  simp only [readChar_cons, Option.bind_eq_bind, Option.bind_some, hread, hvalue, ofLength?,
    n.length_le, dite_true]

theorem ofChars?_write (n : Network) : ofChars? n.write = some n := by
  unfold ofChars? write
  cases hf : n.address.family with
  | v4 =>
    have hl : n.length ≤ 32 := by
      have := n.length_le
      rwa [hf] at this
    have hread := readV4_write .relaxed hf (noDigit_of_groupsEnd (.slash (digits 10 n.length)))
    simp only [whole, Option.bind_eq_bind, hread, Option.bind_some,
      readLength_digits n (by decide : 0 < 2) (Nat.lt_of_le_of_lt hl (by decide)), Option.some_or]
  | v6 =>
    have hl := n.length_le_128
    have hfour := readV4_write_v6 .relaxed hf (.slash (digits 10 n.length))
    have hread := readV6_write .relaxed hf (.slash (digits 10 n.length))
    simp only [whole, Option.bind_eq_bind, hfour, Option.bind_none, Option.none_or, hread,
      Option.bind_some, readLength_digits n (by decide : 0 < 3) (Nat.lt_of_le_of_lt hl (by decide))]

theorem ofRule?_write (n : Network) : ofRule? n.write = some n.truncate := by
  unfold ofRule?
  simp only [trim_write, ofChars?_write]

theorem write_injective {m n : Network} (h : m.write = n.write) : m = n := by
  have := ofChars?_write m
  rw [h, ofChars?_write n] at this
  exact (Option.some.inj this).symm

theorem toString_inj {m n : Network} : toString m = toString n ↔ m = n := by
  constructor
  · exact fun h => write_injective (String.ofList_injective h)
  · rintro rfl
    rfl

/-! ## Addresses -/

theorem slash_of_readLength {most : Nat} {a : Address} {cs rest : List Char} {n : Network}
    (h : readLength most a cs = some (n, rest)) : '/' ∈ cs := by
  obtain ⟨⟨_, more⟩, hslash, -⟩ := Option.bind_eq_some_iff.mp h
  rw [of_readChar hslash]
  exact List.mem_cons_self

theorem consumes_readLength (most : Nat) (a : Address) :
    Consumes (fun c => c ≠ ':') (readLength most a) := by
  constructor
  intro cs n rest h
  obtain ⟨slash, hslash, h⟩ := Option.bind_eq_some_iff.mp h
  obtain ⟨number, hnumber, h⟩ := Option.bind_eq_some_iff.mp h
  obtain ⟨m, -, h⟩ := Option.bind_eq_some_iff.mp h
  obtain ⟨-, rfl⟩ := Prod.mk.inj (Option.some.inj h)
  have hchar : Consumes (fun c => c ≠ ':') (readChar '/') := .char (by decide)
  have hdigits : Consumes (fun c => c ≠ ':') (readNumber 10 most) := by
    refine (Consumes.number 10 most).mono ?_
    rintro c hc rfl
    exact absurd hc (by decide)
  exact (hchar.leaves hslash).trans (hdigits.leaves hnumber)

theorem ofChars?_eq_none {cs : List Char} (h : '/' ∉ cs) : ofChars? cs = none := by
  have hnone : ∀ {p : Char → Prop} {read : Reader Address} (most : Nat), Consumes p read →
      ((read cs).bind fun answer => readLength most answer.1 answer.2) = none := by
    intro p read most hread
    apply Option.eq_none_iff_forall_ne_some.mpr
    rintro ⟨n, rest⟩ hsome
    obtain ⟨⟨a, more⟩, haddress, hlength⟩ := Option.bind_eq_some_iff.mp hsome
    exact h ((hread.leaves haddress).mem (slash_of_readLength hlength))
  have h4 := hnone 2 (Consumes.v4 .relaxed)
  have h6 := hnone 3 (Consumes.v6 .relaxed)
  unfold ofChars? whole
  simp only [Option.bind_eq_bind, h4, h6, Option.or_none]

theorem ofRule?_address (a : Address) : ofRule? a.write = some (host a) := by
  unfold ofRule?
  simp only [Address.trim_write, ofChars?_eq_none a.slash_notMem_write, Address.ofChars?_write,
    Option.map_some]

end TagRules.Net.Network
