import TagRules.Rules.RuleSet
import TagRules.Table.Source

/-
  Tables: the rules of one kind for one tag.

  A table has a source and the rules last taken from it.  `reload` takes the rules of
  the source if they changed, which its version decides: a file is the same while it
  keeps its time and size, and a URL while its body keeps its digest.  `load` takes them
  in any case.

  A file is looked at first and read afterwards, and between the two it may change or
  turn out not to be readable.  What is remembered is the look, and it is remembered when
  the rules are taken: a source that cannot be read changes nothing.
-/

namespace TagRules

open Text Net

/-- The rules of one kind for one tag. -/
structure Table where
  tag : String
  kind : TableKind
  source : Source
  rules : RuleSet
  version : Option Source.Version

/-- What a reload does: nothing, for rules given with the table or for a source that did not
change, or else it replaces the rules. -/
inductive Outcome where
  | unchanged
  | static
  | reloaded (entries skipped : Nat)
  deriving DecidableEq, Repr

namespace Table

/-- The lines that a text gives for a tag: its words, of which a first one that is the tag itself
is no rule. -/
def givenLines (tag : String) (text : List Char) : List (List Char) :=
  match words text with
  | [] => []
  | first :: rest => if Tag.spells tag first then rest else first :: rest

/-- The rules that a text gives for a tag. -/
def givenRules (kind : TableKind) (tag : String) (text : List Char) : RuleSet :=
  (RuleSet.ofLines kind tag (givenLines tag text)).1

/-- A new table.  Rules given as text are there from the beginning. -/
def create (kind : TableKind) (tag : String) (source : Source) : Table :=
  let tag := Tag.normalize tag
  match source with
  | .inline text =>
    ⟨tag, kind, source, givenRules kind tag text.toList, some .given⟩
  | .file _ | .url _ => ⟨tag, kind, source, RuleSet.empty kind, none⟩

/-- A new table whose source is named by a text. -/
def ofText (files : FileTree) (kind : TableKind) (tag text : String) : Table :=
  create kind tag (.ofText files tag text)

/-- Whether the rules were ever taken from the source. -/
def wasRead (t : Table) : Bool := t.version.isSome

/-- Replaces the rules by those of what was read. -/
def publish (t : Table) (reading : Source.Reading) : Outcome × Table :=
  let (rules, skipped) := RuleSet.ofBytes t.kind t.tag reading.content
  (.reloaded rules.size skipped, { t with rules, version := some reading.version })

/-- Whether the rules of a version were taken and need not be taken in any case. -/
def isCurrent (t : Table) (force : Bool) (version : Source.Version) : Bool :=
  !force && t.version == some version

/-- Takes the rules of a file that is looked at in some files and read from later ones. -/
def refreshFile (t : Table) (force : Bool) (path : String) (files later : FileTree) :
    Except Error Outcome × Table :=
  match files.metadata path with
  | .error fault => (.error (.file fault), t)
  | .ok seen =>
    if t.isCurrent force (.file seen) then (.ok .unchanged, t)
    else match later.read path with
      | .error fault => (.error (.file fault), t)
      | .ok content =>
        let (outcome, t) := t.publish ⟨.file seen, content⟩
        (.ok outcome, t)

/-- Takes the rules of what a request for a URL got. -/
def refreshBody (t : Table) (force : Bool) (url : String) (got : Except FetchFault Bytes) :
    Except Error Outcome × Table :=
  match got with
  | .error fault => (.error (.fetch url fault), t)
  | .ok body =>
    let version := .body (sha256 body)
    if t.isCurrent force version then (.ok .unchanged, t)
    else
      let (outcome, t) := t.publish ⟨version, body⟩
      (.ok outcome, t)

/-- Takes the rules from the source, while the files become others between the look at them and
the reading. -/
def refreshAmid (t : Table) (force : Bool) (timeout : Nat) (s : Surroundings) (later : FileTree) :
    Except Error Outcome × Table × Surroundings :=
  match t.source with
  | .inline _ => (.ok .static, t, { s with files := later })
  | .file path =>
    let (result, t) := t.refreshFile force path s.files later
    (result, t, { s with files := later })
  | .url url =>
    let (got, s) := s.fetch url timeout
    let (result, t) := t.refreshBody force url got
    (result, t, { s with files := later })

/-- Takes the rules from the source, while the files stay as they are. -/
def refresh (t : Table) (force : Bool) (timeout : Nat) (s : Surroundings) :
    Except Error Outcome × Table × Surroundings := t.refreshAmid force timeout s s.files

def load (t : Table) (timeout : Nat) (s : Surroundings) :
    Except Error Outcome × Table × Surroundings := t.refresh true timeout s

def reload (t : Table) (timeout : Nat) (s : Surroundings) :
    Except Error Outcome × Table × Surroundings := t.refresh false timeout s

def isMatch (t : Table) (name : String) : Bool := t.rules.isMatch name

def covers (t : Table) (n : Network) : Bool := t.rules.covers n

def size (t : Table) : Nat := t.rules.size

def describe (t : Table) : String :=
  "DataTable\x7btag:" ++ t.tag ++ ", source:" ++ t.source.write ++ ", " ++ t.rules.summary ++ "\x7d"

def kindWord : TableKind → String
  | .keyword => "Keyword"
  | .domain => "Domain"
  | .network => "Netlist"
  | .client => "Ecs"

def details (t : Table) : String :=
  "DataTable \x7b tag: " ++ quoted t.tag ++ ", kind: " ++ kindWord t.kind ++ ", source: " ++
    t.source.details ++ ", len: " ++ toString t.size ++ " \x7d"

end Table

end TagRules
