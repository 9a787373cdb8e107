import TagRules.Unicode.Ages
import TagRules.Unicode.Breaks

/-
  Properties of code points by name.

  Names are compared loosely: case, blanks, hyphens, underscores and a leading
  `is` do not matter.  `named?` resolves a bare name, which may be a binary
  property, a general category or a script, in this order; `valued?` resolves a
  property and one of its values.  An edition stands for all that was assigned
  up to it.
-/

namespace TagRules.Unicode

open CodeSet

/-- Whether the text begins with the letters `is`, in either case. -/
def startsWithIs : List Char → Bool
  | a :: b :: _ => (a == 'i' || a == 'I') && (b == 's' || b == 'S')
  | _ => false

/-- The name without what does not matter.  `isc` is the one name that the
dropped `is` would take for another. -/
def looseName (name : List Char) : String :=
  let start := startsWithIs name
  let rest := if start then name.drop 2 else name
  let kept := rest.filter fun c => c.toNat < 0x80 && c != ' ' && c != '_' && c != '-'
  let folded := String.ofList (kept.map Char.toLower)
  if start && folded == "c" then "isc" else folded

/-! General categories -/

/-- The general categories and their groups: every name of each, and the codes it covers.
Surrogates are no characters, so the name of their category is not among them. -/
def categoryNames : List (List String × List String) :=
  [ (["l", "letter"], ["lu", "ll", "lt", "lm", "lo"]),
    (["lc", "casedletter"], ["lu", "ll", "lt"]),
    (["lu", "uppercaseletter"], ["lu"]),
    (["ll", "lowercaseletter"], ["ll"]),
    (["lt", "titlecaseletter"], ["lt"]),
    (["lm", "modifierletter"], ["lm"]),
    (["lo", "otherletter"], ["lo"]),
    (["m", "mark", "combiningmark"], ["mn", "mc", "me"]),
    (["mn", "nonspacingmark"], ["mn"]),
    (["mc", "spacingmark"], ["mc"]),
    (["me", "enclosingmark"], ["me"]),
    (["n", "number"], ["nd", "nl", "no"]),
    (["nd", "decimalnumber", "digit"], ["nd"]),
    (["nl", "letternumber"], ["nl"]),
    (["no", "othernumber"], ["no"]),
    (["p", "punctuation", "punct"], ["pc", "pd", "ps", "pe", "pi", "pf", "po"]),
    (["pc", "connectorpunctuation"], ["pc"]),
    (["pd", "dashpunctuation"], ["pd"]),
    (["ps", "openpunctuation"], ["ps"]),
    (["pe", "closepunctuation"], ["pe"]),
    (["pi", "initialpunctuation"], ["pi"]),
    (["pf", "finalpunctuation"], ["pf"]),
    (["po", "otherpunctuation"], ["po"]),
    (["s", "symbol"], ["sm", "sc", "sk", "so"]),
    (["sm", "mathsymbol"], ["sm"]),
    (["sc", "currencysymbol"], ["sc"]),
    (["sk", "modifiersymbol"], ["sk"]),
    (["so", "othersymbol"], ["so"]),
    (["z", "separator"], ["zs", "zl", "zp"]),
    (["zs", "spaceseparator"], ["zs"]),
    (["zl", "lineseparator"], ["zl"]),
    (["zp", "paragraphseparator"], ["zp"]),
    (["cc", "control", "cntrl"], ["cc"]),
    (["cf", "format"], ["cf"]),
    (["co", "privateuse"], ["co"]) ]

/-- The code points a general category or group of categories covers. -/
def category? (name : String) : Option CodeSet :=
  if name == "any" then some all
  else if name == "ascii" then some (span 0 0x7F)
  else if name == "assigned" then some unassigned.complement
  else if name == "cn" || name == "unassigned" then some unassigned
  else if name == "c" || name == "other" then
    some (unionAll [categories ["cc", "cf", "co"], unassigned])
  else (categoryNames.find? (·.1.contains name)).map fun entry => categories entry.2

/-! Binary properties -/

/-- Short names of binary properties, with the long ones. -/
def propertyAliases : List (String × String) :=
  [ ("ahex", "asciihexdigit"), ("alpha", "alphabetic"), ("bidic", "bidicontrol"),
    ("bidim", "bidimirrored"), ("ci", "caseignorable"), ("cwcf", "changeswhencasefolded"),
    ("cwcm", "changeswhencasemapped"), ("cwl", "changeswhenlowercased"),
    ("cwt", "changeswhentitlecased"), ("cwu", "changeswhenuppercased"), ("dep", "deprecated"),
    ("di", "defaultignorablecodepoint"), ("dia", "diacritic"), ("ebase", "emojimodifierbase"),
    ("ecomp", "emojicomponent"), ("emod", "emojimodifier"), ("epres", "emojipresentation"),
    ("ext", "extender"), ("extpict", "extendedpictographic"), ("grbase", "graphemebase"),
    ("grext", "graphemeextend"), ("grlink", "graphemelink"), ("hex", "hexdigit"),
    ("idc", "idcontinue"), ("ideo", "ideographic"), ("ids", "idstart"),
    ("idsb", "idsbinaryoperator"), ("idst", "idstrinaryoperator"),
    ("idsu", "idsunaryoperator"), ("joinc", "joincontrol"), ("loe", "logicalorderexception"),
    ("lower", "lowercase"), ("mcm", "modifiercombiningmark"),
    ("nchar", "noncharactercodepoint"), ("oalpha", "otheralphabetic"),
    ("odi", "otherdefaultignorablecodepoint"), ("ogrext", "othergraphemeextend"),
    ("oidc", "otheridcontinue"), ("oids", "otheridstart"), ("olower", "otherlowercase"),
    ("omath", "othermath"), ("oupper", "otheruppercase"), ("patsyn", "patternsyntax"),
    ("patws", "patternwhitespace"), ("pcm", "prependedconcatenationmark"),
    ("qmark", "quotationmark"), ("ri", "regionalindicator"), ("sd", "softdotted"),
    ("space", "whitespace"), ("sterm", "sentenceterminal"), ("term", "terminalpunctuation"),
    ("uideo", "unifiedideograph"), ("upper", "uppercase"), ("vs", "variationselector"),
    ("wspace", "whitespace"), ("xidc", "xidcontinue"), ("xids", "xidstart") ]

/-- The properties put together from general categories and contributions. -/
def derivedProperty? (name : String) : Option CodeSet :=
  match name with
  | "alphabetic" => some alphabetic
  | "lowercase" => some lowercase
  | "uppercase" => some uppercase
  | "cased" => some cased
  | "caseignorable" => some caseIgnorable
  | "changeswhencasemapped" =>
    some (unionAll (["changeswhenlowercased", "changeswhenuppercased",
      "changeswhentitlecased"].map plainProperty))
  | "graphemeextend" => some graphemeExtend
  | "graphemebase" =>
    some (unionAll [categories ["cc", "cf", "co", "zl", "zp"], unassigned, graphemeExtend,
      span 0xD800 0xDFFF]).complement
  | "idstart" => some idStart
  | "idcontinue" => some idContinue
  | "math" => some ((categories ["sm"]).union (plainProperty "othermath"))
  | "xidcontinue" => some (idContinue.sdiff compatibilityOnly)
  | "xidstart" =>
    some (idStart.sdiff (compatibilityOnly.union (ofTable "E33 EB3 FF9E-FF9F")))
  | _ => none

/-- The code points with a binary property. -/
def property? (name : String) : Option CodeSet :=
  let long := (propertyAliases.lookup name).getD name
  (derivedProperty? long).or ((propertyTable.lookup long).map CodeSet.ofTable)

/-! Editions -/

/-- The names of an edition: its number, and the number written as a word. -/
def editionNames (number : String) : List String :=
  [number, "v" ++ String.ofList (number.toList.filter (· != '.'))]

/-- The code points assigned up to the edition of the given name. -/
def assignedBy? (name : String) : Option CodeSet :=
  let later := fun (entry : String × String) => !(editionNames entry.1).contains name
  match ageTable.dropWhile later with
  | [] => none
  | last :: _ =>
    some (unionAll ((ageTable.takeWhile later ++ [last]).map fun entry => ofTable entry.2))

/-! Queries -/

/-- The code points a bare name stands for. -/
def named? (name : List Char) : Option CodeSet :=
  let name := looseName name
  ((property? name).or (category? name)).or (script? name)

/-- The code points with the given value of a property. -/
def valued? (property value : List Char) : Option CodeSet :=
  let value := looseName value
  match looseName property with
  | "gc" | "generalcategory" => category? value
  | "sc" | "script" => script? value
  | "scx" | "scriptextensions" => sharedScript? value
  | "age" => assignedBy? value
  | "gcb" | "graphemeclusterbreak" => characterBreak? value
  | "wb" | "wordbreak" => wordBreak? value
  | "sb" | "sentencebreak" => sentenceBreak? value
  | _ => none

end TagRules.Unicode
