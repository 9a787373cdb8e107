import TagRules.Text.Utf8

/-
  Numbers of variable length.

  A number is written in groups of seven bits, the lowest first, one to a byte; every
  byte but the last has its high bit set.  A number of sixty-four bits takes ten bytes
  at most, of which the tenth can only be one.
-/

namespace TagRules.Wire

open Text

def writeVarint (n : Nat) : Bytes :=
  if n < 128 then [UInt8.ofNat n]
  else UInt8.ofNat (n % 128 + 128) :: writeVarint (n / 128)
termination_by n
decreasing_by omega

/-- Reads a number of at most so many more bytes, the last of which is at most `top`. -/
def readVarintWithin (top : Nat) : Nat → Bytes → Option (Nat × Bytes)
  | 0, _ => none
  | _ + 1, [] => none
  | more + 1, b :: rest =>
    if b < 128 then
      if more = 0 && top < b.toNat then none else some (b.toNat, rest)
    else (readVarintWithin top more rest).map fun (high, left) =>
      (high * 128 + (b.toNat - 128), left)

/-- Reads a number of sixty-four bits. -/
def readVarint (bytes : Bytes) : Option (Nat × Bytes) := readVarintWithin 1 10 bytes

theorem readVarintWithin_length {top more : Nat} {bytes left : Bytes} {n : Nat}
    (h : readVarintWithin top more bytes = some (n, left)) : left.length < bytes.length := by
  fun_induction readVarintWithin top more bytes generalizing n left with
  | case1 => simp at h
  | case2 => simp at h
  | case3 => simp at h
  | case4 => simp at h; simp [h.2]
  | case5 more b rest _ ih =>
    simp only [Option.map_eq_some_iff, Prod.mk.injEq, Prod.exists] at h
    obtain ⟨high, left', hr, _, rfl⟩ := h
    have := ih hr
    simp
    omega

theorem readVarint_length {bytes left : Bytes} {n : Nat}
    (h : readVarint bytes = some (n, left)) : left.length < bytes.length :=
  readVarintWithin_length h

end TagRules.Wire
