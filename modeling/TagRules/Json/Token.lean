import TagRules.Text.Digits

/-
  The tokens of JSON text.

  Strings are read with their escapes.  An escape gives one unit of sixteen bits, and
  a character above U+FFFF takes two of them in a row; a string in which a half of
  such a pair stands alone is no text, but it is a string all the same, so its token
  has no text.  Numbers keep their spelling.
-/

namespace TagRules.Json

open Text

/-- The smallest parts of JSON text. -/
inductive Token where
  | openArray
  | closeArray
  | openObject
  | closeObject
  | comma
  | colon
  | null
  | bool (b : Bool)
  | number (spelling : List Char)
  | string (text : Option String)
  deriving DecidableEq, Repr

/-- Part of a string: a character as it is, or a unit that an escape gives. -/
inductive Piece where
  | char (c : Char)
  | unit (n : Nat)
  deriving DecidableEq, Repr

/-- The character two units stand for, if they are the halves of one. -/
def pair? (high low : Nat) : Option Char :=
  if 0xD800 ≤ high && high < 0xDC00 && 0xDC00 ≤ low && low < 0xE000 then
    some (Char.ofNat (0x10000 + (high - 0xD800) * 0x400 + (low - 0xDC00)))
  else none

/-- Whether a unit is half of a pair. -/
def isHalf (n : Nat) : Bool := 0xD800 ≤ n && n < 0xE000

/-- The text of the pieces, if there is no lone half. -/
def textOf? : List Piece → Option (List Char)
  | [] => some []
  | .char c :: rest => (textOf? rest).map (c :: ·)
  | .unit n :: rest =>
    if !isHalf n then (textOf? rest).map (Char.ofNat n :: ·)
    else match rest with
      | .unit m :: rest =>
        match pair? n m with
        | some c => (textOf? rest).map (c :: ·)
        | none => none
      | _ => none

/-- The character that a letter stands for after a backslash. -/
def escaped? : Char → Option Char
  | '"' => some '"'
  | '\\' => some '\\'
  | '/' => some '/'
  | 'b' => some '\x08'
  | 'f' => some '\x0c'
  | 'n' => some '\n'
  | 'r' => some '\r'
  | 't' => some '\t'
  | _ => none

/-- Reads a string after its opening quote. -/
def readPieces : List Char → Option (List Piece × List Char)
  | [] => none
  | '"' :: rest => some ([], rest)
  | '\\' :: 'u' :: a :: b :: c :: d :: rest =>
    match number? 16 [a, b, c, d], readPieces rest with
    | some n, some (pieces, left) => some (.unit n :: pieces, left)
    | _, _ => none
  | '\\' :: e :: rest =>
    match escaped? e, readPieces rest with
    | some c, some (pieces, left) => some (.char c :: pieces, left)
    | _, _ => none
  | c :: rest =>
    if c < ' ' || c == '\\' then none
    else (readPieces rest).map fun (pieces, left) => (.char c :: pieces, left)

theorem readPieces_length {cs : List Char} {pieces : List Piece} {left : List Char}
    (h : readPieces cs = some (pieces, left)) : left.length < cs.length := by
  fun_induction readPieces cs generalizing pieces left with
  | case1 => simp at h
  | case2 rest => simp at h; simp [h.2]
  | case3 a b c d rest n pieces' left' hr _ ih =>
    have := ih hr
    simp at h
    simp [← h.2]
    omega
  | case4 => simp at h
  | case5 e rest _ c pieces' left' hr _ ih =>
    have := ih hr
    simp at h
    simp [← h.2]
    omega
  | case6 => simp at h
  | case7 => simp at h
  | case8 c rest _ _ _ _ ih =>
    simp only [Option.map_eq_some_iff, Prod.mk.injEq, Prod.exists] at h
    obtain ⟨pieces', left', hr, _, rfl⟩ := h
    have := ih hr
    simp
    omega

def isSpace (c : Char) : Bool := c == ' ' || c == '\t' || c == '\n' || c == '\r'

def inNumber (c : Char) : Bool :=
  isDecimal c || c == '-' || c == '+' || c == '.' || c == 'e' || c == 'E'

/-- Whether there is an exponent, its letter first, or nothing. -/
def isExponent : List Char → Bool
  | [] => true
  | e :: rest =>
    let digits := match rest with
      | '+' :: rest | '-' :: rest => rest
      | rest => rest
    (e == 'e' || e == 'E') && !digits.isEmpty && digits.all isDecimal

/-- Whether there is a fraction, its point first, and an exponent; either may be missing. -/
def isFraction : List Char → Bool
  | '.' :: rest => !(rest.takeWhile isDecimal).isEmpty && isExponent (rest.dropWhile isDecimal)
  | rest => isExponent rest

/-- Whether the text is the spelling of a number. -/
def isNumber (cs : List Char) : Bool :=
  let cs := if cs.head? == some '-' then cs.drop 1 else cs
  let whole := cs.takeWhile isDecimal
  !whole.isEmpty && (whole == ['0'] || whole.head? != some '0') &&
    isFraction (cs.dropWhile isDecimal)

/-- The token that a word is. -/
def word? (cs : List Char) : Option Token :=
  if cs == "null".toList then some .null
  else if cs == "true".toList then some (.bool true)
  else if cs == "false".toList then some (.bool false)
  else none

/-- The token that one character is. -/
def mark? : Char → Option Token
  | '[' => some .openArray
  | ']' => some .closeArray
  | '{' => some .openObject
  | '}' => some .closeObject
  | ',' => some .comma
  | ':' => some .colon
  | _ => none

def readToken (c : Char) (rest : List Char) : Option (Token × List Char) :=
  match mark? c with
  | some token => some (token, rest)
  | none =>
    if c == '"' then
      (readPieces rest).map fun (pieces, left) =>
        (.string ((textOf? pieces).map String.ofList), left)
    else if inNumber c then
      let spelling := c :: rest.takeWhile inNumber
      if isNumber spelling then some (.number spelling, rest.dropWhile inNumber) else none
    else (word? (c :: rest.takeWhile Char.isAlpha)).map fun token =>
      (token, rest.dropWhile Char.isAlpha)

theorem readToken_length {c : Char} {rest left : List Char} {token : Token}
    (h : readToken c rest = some (token, left)) : left.length ≤ rest.length := by
  unfold readToken at h
  split at h
  · simp at h; simp [h.2]
  · split at h
    · simp only [Option.map_eq_some_iff, Prod.mk.injEq, Prod.exists] at h
      obtain ⟨pieces, left', hr, _, rfl⟩ := h
      exact Nat.le_of_lt (readPieces_length hr)
    · split at h
      · simp only [Option.ite_none_right_eq_some, Option.some.injEq, Prod.mk.injEq] at h
        rw [← h.2.2]
        exact (List.dropWhile_sublist _).length_le
      · simp only [Option.map_eq_some_iff, Prod.mk.injEq] at h
        obtain ⟨_, _, _, rfl⟩ := h
        exact (List.dropWhile_sublist _).length_le

def tokens? : List Char → Option (List Token)
  | [] => some []
  | c :: rest =>
    if isSpace c then tokens? rest
    else match _h : readToken c rest with
      | none => none
      | some (token, left) => (tokens? left).map (token :: ·)
termination_by cs => cs.length
decreasing_by
  · simp
  · have := readToken_length _h
    simp
    omega

end TagRules.Json
