import TagRules.Pattern.Node
import TagRules.Text.Blank
import TagRules.Unicode.Lookup
import TagRules.Unicode.Recent

/-
  The tokens of a pattern.

  A token is read from the front of the text, and what follows it is handed back.
  In verbose stretches blanks and comments mean nothing between tokens and inside
  the longer ones; `pass` drops them.  Whether a stretch is verbose depends on the
  groups around it, so the lexer keeps one switch for each open group, and it
  counts the open brackets of a class, inside which other tokens are read.
-/

namespace TagRules.Pattern

open Text Unicode

/-- Settings that a group or a directive can change. -/
inductive Flag where
  | ignoreCase
  | multiLine
  | dotAll
  | swapGreed
  | unicode
  | anyLine
  | verbose
  deriving DecidableEq, Repr

/-- What a list of flags switches on or off. -/
abbrev FlagChanges := List (Flag × Bool)

/-- The classes with a letter of their own. -/
inductive Shorthand where
  | digit
  | space
  | word
  deriving DecidableEq, Repr

/-- Conditions on a position, as written. -/
inductive Assertion where
  | lineStart
  | lineEnd
  | textStart
  | textEnd
  | word (side : WordSide)
  deriving DecidableEq, Repr

/-- A property of characters, as written. -/
inductive Query where
  | named (name : List Char)
  | valued (property value : List Char)
  deriving DecidableEq, Repr

/-- The smallest parts of a pattern.  A literal is `narrow` if it is written as the two
hexadecimal digits of a byte. -/
inductive Atom where
  | literal (c : Char) (narrow : Bool)
  | dot
  | assertion (a : Assertion)
  | shorthand (kind : Shorthand) (negated : Bool)
  | property (query : Query) (negated : Bool)
  deriving DecidableEq, Repr

/-- The members of a class in brackets. -/
inductive ClassItem where
  | literal (c : Char)
  | range (first last : Char)
  | shorthand (kind : Shorthand) (negated : Bool)
  | property (query : Query) (negated : Bool)
  | ascii (set : CodeSet) (negated : Bool)
  deriving DecidableEq, Repr

/-- The operators between the members of a class. -/
inductive ClassOp where
  | inter
  | diff
  | symmDiff
  deriving DecidableEq, Repr

/-- The parts a pattern is cut into. -/
inductive Token where
  | atom (a : Atom)
  | opens (changes : FlagChanges) (captures : Bool) (name : Option (List Char))
  | closes
  | bar
  | directive (changes : FlagChanges)
  | times (least : Nat) (most : Option Nat)
  | classOpens (negated : Bool)
  | classItem (item : ClassItem)
  | classOp (op : ClassOp)
  | classCloses
  deriving DecidableEq, Repr

/-! Blanks and comments -/

/-- The text after blanks and comments; `comment` tells whether it begins in one. -/
def passFrom (comment : Bool) : List Char → List Char
  | [] => []
  | c :: rest =>
    if comment then passFrom (c != '\n') rest
    else if isBlank c then passFrom false rest
    else if c == '#' then passFrom true rest
    else c :: rest

/-- The text after what means nothing in a verbose stretch. -/
def pass (verbose : Bool) (cs : List Char) : List Char :=
  if verbose then passFrom false cs else cs

/-- The run of characters of the class at the start, what means nothing left out, and the text
after it. -/
def gather (verbose : Bool) (member : Char → Bool) (comment : Bool) :
    List Char → List Char × List Char
  | [] => ([], [])
  | c :: rest =>
    if comment then gather verbose member (c != '\n') rest
    else if verbose && isBlank c then gather verbose member false rest
    else if verbose && c == '#' then gather verbose member true rest
    else if member c then
      let (run, rest) := gather verbose member false rest
      (c :: run, rest)
    else ([], c :: rest)

/-- What stands before a closing brace, and the text after the brace. -/
def braced? (verbose : Bool) (cs : List Char) : Option (List Char × List Char) :=
  match gather verbose (· != '}') false cs with
  | (inner, '}' :: rest) => some (inner, rest)
  | _ => none

/-! Escapes -/

def charOfCode? (n : Nat) : Option Char :=
  if n.isValidChar then some (Char.ofNat n) else none

def readHex (verbose : Bool) : Nat → List Char → Option (List Char × List Char)
  | 0, cs => some ([], cs)
  | n + 1, cs =>
    match pass verbose cs with
    | [] => none
    | c :: rest =>
      if isHex c then (readHex verbose n rest).map fun (run, rest) => (c :: run, rest) else none

/-- Reads a code point: so many digits, or any number of them in braces. -/
def readCode (verbose : Bool) (width : Nat) (cs : List Char) : Option (Atom × List Char) :=
  match pass verbose cs with
  | '{' :: rest => do
    let (run, rest) ← braced? verbose rest
    let n ← number? 16 run
    let c ← charOfCode? n
    some (.literal c false, rest)
  | cs => do
    let (run, rest) ← readHex verbose width cs
    let c ← charOfCode? (value 16 run)
    some (.literal c (width == 2), rest)

/-- The property that text in braces names, and whether it is one that is left out. -/
def queryOf (inner : List Char) : Query × Bool :=
  match cutAt ['!', '='] inner with
  | some (property, value) => (.valued property value, true)
  | none =>
    match cut? (· == ':') inner with
    | some (property, value) => (.valued property value, false)
    | none =>
      match cut? (· == '=') inner with
      | some (property, value) => (.valued property value, false)
      | none => (.named inner, false)
where
  /-- The text before and after the first occurrence of `part`. -/
  cutAt (part : List Char) : List Char → Option (List Char × List Char)
    | [] => none
    | c :: rest =>
      if part.isPrefixOf (c :: rest) then some ([], (c :: rest).drop part.length)
      else (cutAt part rest).map fun (before, after) => (c :: before, after)

/-- Reads a property: one letter, or a query in braces. -/
def readProperty (verbose negated : Bool) (cs : List Char) : Option (Atom × List Char) :=
  match pass verbose cs with
  | [] => none
  | '{' :: rest => do
    let (inner, rest) ← braced? verbose rest
    let (query, other) := queryOf inner
    some (.property query (negated != other), rest)
  | c :: rest => if c == '\\' then none else some (.property (.named [c]) negated, rest)

/-- The name of a side of a word, in braces after `\b`. -/
def wordSide? (name : String) : Option WordSide :=
  match name with
  | "start" => some .start
  | "end" => some .finish
  | "start-half" => some .startHalf
  | "end-half" => some .finishHalf
  | _ => none

/-- Reads what may follow `\b`.  A brace that no name follows begins a repetition. -/
def readBoundary (verbose : Bool) (cs : List Char) : Option (Atom × List Char) :=
  let isNameChar := fun c : Char => c.isAlpha || c == '-'
  match cs with
  | '{' :: rest =>
    match pass verbose rest with
    | [] => none
    | c :: more =>
      if isNameChar c then
        match gather verbose isNameChar false (c :: more) with
        | (name, '}' :: rest) =>
          (wordSide? (String.ofList name)).map fun side => (.assertion (.word side), rest)
        | _ => none
      else some (.assertion (.word .boundary), cs)
  | _ => some (.assertion (.word .boundary), cs)

/-- Punctuation and controls of ASCII stand for themselves after a backslash; letters, digits
and angle brackets do not. -/
def isEscapable (c : Char) : Bool :=
  c.toNat < 0x80 && !c.isAlphanum && c != '<' && c != '>'

/-- Reads what follows a backslash. -/
def readEscape (verbose : Bool) : List Char → Option (Atom × List Char)
  | [] => none
  | c :: rest =>
    let letter := fun c => some (Atom.literal c false, rest)
    let place := fun a => some (Atom.assertion a, rest)
    match c with
    | 'x' => readCode verbose 2 rest
    | 'u' => readCode verbose 4 rest
    | 'U' => readCode verbose 8 rest
    | 'p' => readProperty verbose false rest
    | 'P' => readProperty verbose true rest
    | 'd' => some (.shorthand .digit false, rest)
    | 'D' => some (.shorthand .digit true, rest)
    | 's' => some (.shorthand .space false, rest)
    | 'S' => some (.shorthand .space true, rest)
    | 'w' => some (.shorthand .word false, rest)
    | 'W' => some (.shorthand .word true, rest)
    | 'a' => letter '\x07'
    | 'f' => letter '\x0C'
    | 't' => letter '\t'
    | 'n' => letter '\n'
    | 'r' => letter '\r'
    | 'v' => letter '\x0B'
    | 'A' => place .textStart
    | 'z' => place .textEnd
    | 'b' => readBoundary verbose rest
    | 'B' => place (.word .noBoundary)
    | '<' => place (.word .start)
    | '>' => place (.word .finish)
    | _ => if isEscapable c then letter c else none

/-! Groups and flags -/

def flag? (c : Char) : Option Flag :=
  match c with
  | 'i' => some .ignoreCase
  | 'm' => some .multiLine
  | 's' => some .dotAll
  | 'U' => some .swapGreed
  | 'u' => some .unicode
  | 'R' => some .anyLine
  | 'x' => some .verbose
  | _ => none

/-- Reads flags up to a colon or a closing parenthesis, and which of the two it was.  No flag
comes twice, and one minus sign turns off what follows it, which is something. -/
def readFlags (found : FlagChanges) (turnOff dangling : Bool) :
    List Char → Option (FlagChanges × Bool × List Char)
  | [] => none
  | c :: rest =>
    if c == ':' || c == ')' then
      if dangling then none else some (found.reverse, c == ':', rest)
    else if c == '-' then
      if turnOff then none else readFlags found true true rest
    else
      match flag? c with
      | none => none
      | some flag =>
        if found.any (·.1 == flag) then none
        else readFlags ((flag, !turnOff) :: found) turnOff false rest

/-- Whether a group may have this character in its name, at its start or later. -/
def isNameChar (first : Bool) (c : Char) : Bool :=
  c == '_' || recentAlphabetic.contains c.toNat ||
    (!first && (c == '.' || c == '[' || c == ']' ||
      (recentCategories ["nd", "nl", "no"]).contains c.toNat))

/-- Reads the name of a group and the angle bracket after it. -/
def readName (cs : List Char) : Option (Token × List Char) :=
  match cs.takeWhile (· != '>'), cs.dropWhile (· != '>') with
  | c :: name, '>' :: rest =>
    if isNameChar true c && name.all (isNameChar false) then
      some (.opens [] true (some (c :: name)), rest)
    else none
  | _, _ => none

/-- Reads what follows an opening parenthesis.  Conditions on the text around a position are
not part of the language. -/
def readGroup (verbose : Bool) (cs : List Char) : Option (Token × List Char) :=
  match pass verbose cs with
  | '?' :: '=' :: _ => none
  | '?' :: '!' :: _ => none
  | '?' :: '<' :: '=' :: _ => none
  | '?' :: '<' :: '!' :: _ => none
  | '?' :: 'P' :: '<' :: rest => readName rest
  | '?' :: '<' :: rest => readName rest
  | '?' :: rest =>
    match readFlags [] false false rest with
    | none => none
    | some (changes, true, rest) => some (.opens changes false none, rest)
    | some (changes, false, rest) =>
      if changes.isEmpty then none else some (.directive changes, rest)
  | cs => some (.opens [] true none, cs)

/-! Repetitions -/

/-- The largest count of a repetition. -/
def countLimit : Nat := 0xFFFFFFFF

def readCount (verbose : Bool) (cs : List Char) : Option (Nat × List Char) := do
  let (run, rest) := gather verbose isDecimal false (cs.dropWhile isBlank)
  let n ← number? 10 run
  if countLimit < n then none else some (n, rest.dropWhile isBlank)

/-- The text without one question mark it may begin with. -/
def dropQuestion : List Char → List Char
  | '?' :: rest => rest
  | cs => cs

/-- Reads what follows an opening brace: a count, a least count, or two counts. -/
def readCounts (verbose : Bool) (cs : List Char) : Option (Token × List Char) := do
  let (least, rest) ← readCount verbose (pass verbose cs)
  match rest with
  | '}' :: rest => some (.times least (some least), dropQuestion (pass verbose rest))
  | ',' :: rest =>
    match pass verbose rest with
    | '}' :: rest => some (.times least none, dropQuestion (pass verbose rest))
    | rest =>
      let (most, rest) ← readCount verbose rest
      match rest with
      | '}' :: rest =>
        if least ≤ most then some (.times least (some most), dropQuestion (pass verbose rest))
        else none
      | _ => none
  | _ => none

/-! Classes in brackets -/

/-- The classes of ASCII characters that have names. -/
def asciiClass? (name : String) : Option CodeSet :=
  let of := fun text => some (CodeSet.ofTable text)
  match name with
  | "alnum" => of "30-39 41-5A 61-7A"
  | "alpha" => of "41-5A 61-7A"
  | "ascii" => of "0-7F"
  | "blank" => of "9 20"
  | "cntrl" => of "0-1F 7F"
  | "digit" => of "30-39"
  | "graph" => of "21-7E"
  | "lower" => of "61-7A"
  | "print" => of "20-7E"
  | "punct" => of "21-2F 3A-40 5B-60 7B-7E"
  | "space" => of "9-D 20"
  | "upper" => of "41-5A"
  | "word" => of "30-39 41-5A 5F 61-7A"
  | "xdigit" => of "30-39 41-46 61-66"
  | _ => none

/-- Reads a named class of ASCII characters, after its opening bracket. -/
def readAscii (cs : List Char) : Option (ClassItem × List Char) :=
  match cs with
  | ':' :: rest =>
    let (negated, rest) := match rest with
      | '^' :: rest => (true, rest)
      | rest => (false, rest)
    match rest.dropWhile (· != ':') with
    | ':' :: ']' :: after =>
      (asciiClass? (String.ofList (rest.takeWhile (· != ':')))).map fun set =>
        (.ascii set negated, after)
    | _ => none
  | _ => none

/-- Reads what follows an opening bracket up to the first member.  Hyphens there stand for
themselves, and so does a closing bracket that comes first. -/
def readClassStart (verbose : Bool) (cs : List Char) : Option (List Token × List Char) :=
  let cs := pass verbose cs
  let (negated, cs) := match cs with
    | '^' :: rest => (true, pass verbose rest)
    | cs => (false, cs)
  let (hyphens, rest) := gather verbose (· == '-') false cs
  let opening := Token.classOpens negated :: hyphens.map fun c => .classItem (.literal c)
  match hyphens, rest with
  | _, [] => none
  | [], ']' :: rest =>
    match pass verbose rest with
    | [] => none
    | rest => some (opening ++ [.classItem (.literal ']')], rest)
  | _, rest => some (opening, rest)

/-- Reads a member of a class that is no class in brackets, as an atom. -/
def readMember (verbose : Bool) : List Char → Option (Atom × List Char)
  | [] => none
  | '\\' :: rest => readEscape verbose rest
  | c :: rest => some (.literal c false, rest)

/-- An atom as a member of a class. -/
def Atom.member? : Atom → Option ClassItem
  | literal c _ => some (.literal c)
  | shorthand kind negated => some (.shorthand kind negated)
  | property query negated => some (.property query negated)
  | dot | assertion _ => none

/-- Reads one member or a range. -/
def readRange (verbose : Bool) (cs : List Char) : Option (ClassItem × List Char) := do
  let (first, rest) ← readMember verbose cs
  match pass verbose rest with
  | [] => none
  | '-' :: after =>
    match pass verbose after with
    | [] => none
    | c :: more =>
      if c == ']' || c == '-' then first.member?.map fun item => (item, '-' :: after)
      else
        let (last, rest) ← readMember verbose (c :: more)
        match first, last with
        | .literal a _, .literal b _ => if a ≤ b then some (.range a b, rest) else none
        | _, _ => none
  | rest => first.member?.map fun item => (item, rest)

/-! The lexer -/

/-- Where the lexer is: the verbose switches of the open groups, innermost first, and the
number of open brackets. -/
structure Place where
  verbose : Bool
  outer : List Bool
  brackets : Nat
  deriving DecidableEq, Repr

namespace Place

/-- The verbose switch after some changes. -/
def switched (place : Place) (changes : FlagChanges) : Bool :=
  (changes.lookup .verbose).getD place.verbose

def after (place : Place) : Token → Place
  | .opens changes _ _ =>
    { place with verbose := place.switched changes, outer := place.verbose :: place.outer }
  | .directive changes => { place with verbose := place.switched changes }
  | .closes =>
    match place.outer with
    | [] => place
    | verbose :: outer => { place with verbose, outer }
  | .classOpens _ => { place with brackets := place.brackets + 1 }
  | .classCloses => { place with brackets := place.brackets - 1 }
  | _ => place

end Place

/-- Reads the tokens at the front of a text that stands outside brackets. -/
def lexOutside (verbose : Bool) : List Char → Option (List Token × List Char)
  | [] => none
  | c :: rest =>
    let one := fun (found : Option (Token × List Char)) =>
      found.map fun (token, rest) => ([token], rest)
    match c with
    | '(' => one (readGroup verbose rest)
    | ')' => some ([.closes], rest)
    | '|' => some ([.bar], rest)
    | '[' => readClassStart verbose rest
    | '?' => some ([.times 0 (some 1)], dropQuestion rest)
    | '*' => some ([.times 0 none], dropQuestion rest)
    | '+' => some ([.times 1 none], dropQuestion rest)
    | '{' => one (readCounts verbose rest)
    | '.' => some ([.atom .dot], rest)
    | '^' => some ([.atom (.assertion .lineStart)], rest)
    | '$' => some ([.atom (.assertion .lineEnd)], rest)
    | '\\' => one ((readEscape verbose rest).map fun (atom, rest) => (.atom atom, rest))
    | c => some ([.atom (.literal c false)], rest)

/-- Reads the tokens at the front of a text that stands inside brackets. -/
def lexInside (verbose : Bool) : List Char → Option (List Token × List Char)
  | [] => none
  | '[' :: rest =>
    match readAscii rest with
    | some (item, rest) => some ([.classItem item], rest)
    | none => readClassStart verbose rest
  | ']' :: rest => some ([.classCloses], rest)
  | '&' :: '&' :: rest => some ([.classOp .inter], rest)
  | '-' :: '-' :: rest => some ([.classOp .diff], rest)
  | '~' :: '~' :: rest => some ([.classOp .symmDiff], rest)
  | cs => (readRange verbose cs).map fun (item, rest) => ([.classItem item], rest)

/-- The tokens of a text.  A reader leaves less text than it was given, which the loop makes
sure of. -/
def lex (place : Place) (cs : List Char) : Option (List Token) :=
  match pass place.verbose cs with
  | [] => some []
  | c :: rest =>
    let read := if place.brackets = 0 then lexOutside else lexInside
    match read place.verbose (c :: rest) with
    | none => none
    | some (tokens, left) =>
      if left.length < cs.length then
        (lex (tokens.foldl Place.after place) left).map (tokens ++ ·)
      else none
termination_by cs.length

def tokens? (cs : List Char) : Option (List Token) := lex ⟨false, [], 0⟩ cs

end TagRules.Pattern
