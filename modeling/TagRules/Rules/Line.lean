import TagRules.Rules.DomainRules
import TagRules.Rules.Keywords
import TagRules.Rules.ClientBindings
import TagRules.Tag

/-
  Rule lines.

  A line is read by itself, for one tag.  It is an entry for the tag, or a
  well-formed line for another tag, or malformed; the first kind adds to the rule
  set and the last is counted.  Text after a number sign is a comment, and a line
  with nothing else says nothing.

    word                         a keyword, for any tag
    TAG word                     a keyword
    name                         a full domain rule, for any tag
    TAG:kind:value               a domain rule: full, domain or regex
    network                      a network, for any tag
    TAG:network                  a network
    TAG:ip:client:target         a binding of one client
    TAG:cidr:network,...:target  a binding of networks
-/

namespace TagRules

open Text Net

/-- What a line says to the table of a tag. -/
inductive Line (α : Type) where
  | entry (a : α)
  | foreign
  | malformed
  deriving DecidableEq, Repr

namespace Line

/-- The text of a line before a comment, without blanks at its ends. -/
def strip (line : List Char) : List Char := trim (line.takeWhile (· != '#'))

/-- Reads every line that says something. -/
def readAll {α : Type} (read : List Char → Line α) (lines : List (List Char)) : List (Line α) :=
  ((lines.map strip).filter (fun line => !line.isEmpty)).map read

/-- The entries among lines. -/
def entries {α : Type} (lines : List (Line α)) : List α :=
  lines.filterMap fun
    | entry a => some a
    | foreign | malformed => none

def skipped {α : Type} (lines : List (Line α)) : Nat :=
  lines.countP fun
    | malformed => true
    | entry _ | foreign => false

def readKeyword (tag : String) (line : List Char) : Line String :=
  match words line with
  | [] => malformed
  | [word] => entry (String.ofList (lower word))
  | owner :: word :: _ =>
    if Tag.spells tag owner then entry (String.ofList (lower word)) else foreign

/-- The form of a name in a rule: small letters, no blanks at the ends and no final stop. -/
def domainName (value : List Char) : List Char := dropFinalStop (lower (trim value))

/-- The three fields of a line, the last of which may hold colons. -/
def fields? (line : List Char) : Option (List Char × List Char × List Char) := do
  let (owner, rest) ← cut? (· == ':') line
  let (kind, value) ← cut? (· == ':') rest
  some (owner, kind, value)

/-- Reads the value of a domain rule. -/
def readDomainValue (kind : MatchKind) (value : List Char) : Line DomainRules.Entry :=
  let value := match kind with
    | .pattern => trim value
    | .full | .domain => domainName value
  if value.isEmpty then malformed
  else match DomainRules.Entry.ofKind? kind (String.ofList value) with
    | some rule => entry rule
    | none => malformed

/-- Reads a domain line. -/
def readDomain (tag : String) (line : List Char) : Line DomainRules.Entry :=
  if !line.contains ':' then entry (.name (String.ofList (domainName line)))
  else match fields? line with
    | none => malformed
    | some (owner, kind, value) =>
      match MatchKind.ofChars? kind with
      | none => malformed
      | some kind => if Tag.spells tag owner then readDomainValue kind value else foreign

/-- Reads a network line.  The whole line is tried first, because a network may have colons. -/
def readNetwork (tag : String) (line : List Char) : Line Network :=
  match Network.ofRule? line with
  | some n => entry n
  | none =>
    match cut? (· == ':') line with
    | none => malformed
    | some (owner, rest) =>
      match Network.ofRule? rest with
      | none => malformed
      | some n => if Tag.spells tag owner then entry n else foreign

/-- A binding of one client or of several networks. -/
inductive Binding where
  | address (client target : Address)
  | ranges (nets : List Network) (target : Address)
  deriving DecidableEq, Repr

/-- The clients before a colon, for a binding of either kind. -/
def readClients (single : Bool) (clients : List Char) (target : Address) : Option Binding :=
  if single then (Address.ofChars? clients).map fun client => .address client target
  else ((splitAll ',' clients).mapM Network.ofRule?).map fun nets => .ranges nets target

/-- Reads clients and target.  Both may have colons: the first colon with clients before it and
an address after it divides them. -/
def readBinding? (single : Bool) (rest : List Char) : Option Binding :=
  (cuts ':' rest).findSome? fun (clients, target) => do
    let target ← Address.ofChars? (trim target)
    readClients single (trim clients) target

/-- Reads a line of bindings. -/
def readClient (tag : String) (line : List Char) : Line Binding :=
  match fields? line with
  | none => malformed
  | some (owner, kind, rest) =>
    let kind := kindName kind
    if kind != "ip" && kind != "cidr" then malformed
    else match readBinding? (kind == "ip") rest with
      | none => malformed
      | some binding => if Tag.spells tag owner then entry binding else foreign

end Line

namespace ClientBindings

def insert (b : ClientBindings) : Line.Binding → ClientBindings
  | .address client target => b.bindAddress (toString client) target
  | .ranges nets target => nets.foldl (fun b n => b.bindRange n target) b

end ClientBindings

end TagRules
