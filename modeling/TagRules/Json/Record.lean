import TagRules.Json.Value

/-
  Records in JSON.

  A record is written as an object with a member for each field, in any order, or as
  an array of its fields in the order in which they are declared.  Fields may be
  missing, and unknown members mean nothing, but no field is given twice.

  The readers of field values are strict: a number has to be a whole one, without
  sign, point or exponent, and `null` stands for nothing but a missing value.
-/

namespace TagRules.Json

open Text

/-- A field of a record: its name, and how its value changes the record. -/
structure RecordField (α : Type) where
  name : String
  set : Json → α → Option α

/-- The member of an object, its name a text. -/
def member? (m : Option String × Json) : Option (String × Json) :=
  m.1.map fun name => (name, m.2)

/-- Whether two of the members are for one field. -/
def repeatsField {α : Type} (fields : List (RecordField α))
    (members : List (String × Json)) : Bool :=
  fields.any fun field => 1 < members.countP fun m => m.1 == field.name

/-- Gives a member's value to the field of its name. -/
def setMember {α : Type} (fields : List (RecordField α)) (record : α)
    (m : String × Json) : Option α :=
  match fields.find? fun field => field.name == m.1 with
  | some field => field.set m.2 record
  | none => some record

/-- Reads a record, beginning with one that has what stands for missing fields. -/
def readRecord {α : Type} (fields : List (RecordField α)) (start : α) : Json → Option α
  | .object members => do
    let members ← members.mapM member?
    if repeatsField fields members then none
    else members.foldlM (setMember fields) start
  | .array elements =>
    if fields.length < elements.length then none
    else (fields.zip elements).foldlM (fun record (field, v) => field.set v record) start
  | _ => none

def bool? : Json → Option Bool
  | .bool b => some b
  | _ => none

def text? : Json → Option String
  | .string text => text
  | _ => none

/-- The largest number of sixty-four bits. -/
def wordMax : Nat := 0xFFFFFFFFFFFFFFFF

/-- A whole number of sixty-four bits. -/
def word64? : Json → Option Nat
  | .number spelling => (number? 10 spelling).filter (· ≤ wordMax)
  | _ => none

def list? {α : Type} (read : Json → Option α) : Json → Option (List α)
  | .array elements => elements.mapM read
  | _ => none

/-- A value that may be missing. -/
def optional? {α : Type} (read : Json → Option α) : Json → Option (Option α)
  | .null => some none
  | v => (read v).map some

/-- A name, by itself or as the only member of an object that holds nothing. -/
def choice? : Json → Option String
  | .string text => text
  | .object [(name, .null)] => name
  | _ => none

end TagRules.Json
