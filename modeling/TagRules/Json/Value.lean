import TagRules.Json.Token

/-
  JSON values.

  `ofTokens?` reads a value in one pass.  It keeps the arrays and objects that are
  open, innermost first, and what has to come next; when the outermost value is
  complete, nothing may follow.  The members of an object keep their order and may
  repeat.
-/

namespace TagRules

open Text

/-- A value.  A string, and a name, may be one that is no text. -/
inductive Json where
  | null
  | bool (b : Bool)
  | number (spelling : List Char)
  | string (text : Option String)
  | array (elements : List Json)
  | object (members : List (Option String × Json))
  deriving Repr, Inhabited

namespace Json

/-- An array or object that is open, with what it holds so far, last first.  For an object there
is also the name of the member that comes. -/
inductive Frame where
  | array (before : List Json)
  | object (before : List (Option String × Json)) (name : Option String)

/-- What has to come next. -/
inductive Next where
  | value
  | elementOrEnd
  | memberOrEnd
  | member (before : List (Option String × Json))
  | colon (before : List (Option String × Json)) (name : Option String)
  | after (v : Json)

/-- The value that one token is. -/
def scalar? : Token → Option Json
  | .null => some .null
  | .bool b => some (.bool b)
  | .number spelling => some (.number spelling)
  | .string text => some (.string text)
  | .openArray | .closeArray | .openObject | .closeObject | .comma | .colon => none

/-- Where a token leads when a value begins with it. -/
def beginValue (frames : List Frame) (token : Token) : Option (List Frame × Next) :=
  match token with
  | .openArray => some (.array [] :: frames, .elementOrEnd)
  | .openObject => some (frames, .memberOrEnd)
  | token => (scalar? token).map fun v => (frames, .after v)

/-- Where a token leads after a complete value. -/
def afterValue (frames : List Frame) (v : Json) (token : Token) : Option (List Frame × Next) :=
  match frames, token with
  | .array before :: outer, .comma => some (.array (v :: before) :: outer, .value)
  | .array before :: outer, .closeArray => some (outer, .after (.array (v :: before).reverse))
  | .object before name :: outer, .comma => some (outer, .member ((name, v) :: before))
  | .object before name :: outer, .closeObject =>
    some (outer, .after (.object ((name, v) :: before).reverse))
  | _, _ => none

/-- Where a token leads. -/
def step (frames : List Frame) (next : Next) (token : Token) : Option (List Frame × Next) :=
  match next, token with
  | .value, token => beginValue frames token
  | .elementOrEnd, .closeArray => some (frames.drop 1, .after (.array []))
  | .elementOrEnd, token => beginValue frames token
  | .memberOrEnd, .closeObject => some (frames, .after (.object []))
  | .memberOrEnd, .string name => some (frames, .colon [] name)
  | .member before, .string name => some (frames, .colon before name)
  | .colon before name, .colon => some (.object before name :: frames, .value)
  | .after v, token => afterValue frames v token
  | .memberOrEnd, _ | .member _, _ | .colon _ _, _ => none

/-- Reads the tokens that are left. -/
def readOn (frames : List Frame) (next : Next) : List Token → Option Json
  | [] =>
    match frames, next with
    | [], .after v => some v
    | _, _ => none
  | token :: rest =>
    match step frames next token with
    | some (frames, next) => readOn frames next rest
    | none => none

def ofTokens? (tokens : List Token) : Option Json := readOn [] .value tokens

def ofString? (s : String) : Option Json := (tokens? s.toList).bind ofTokens?

end Json

end TagRules
