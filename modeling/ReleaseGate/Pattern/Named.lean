import ReleaseGate.Pattern.Tree
import ReleaseGate.Unicode.Age
import ReleaseGate.Unicode.Break
import ReleaseGate.Unicode.Category
import ReleaseGate.Unicode.Property
import ReleaseGate.Unicode.Script

/-!
# Named classes — the sets of characters that have a name

Names of properties are compared loosely: case, blanks, hyphens and underscores do not count, nor
does `is` at the front. A name alone may be a property, a category or a script, looked for in this
order. A property with a value is the category, the script, the age or one of the three breaks, each
of which has its own table of values; no other property takes a value.
-/

namespace ReleaseGate.Pattern

open Unicode

/-- Is the list the word `is` in any case? -/
private def isIs : List Char → Bool
  | [a, b] => a.toLower == 'i' && b.toLower == 's'
  | _ => false

/-- The characters of a name that count. -/
private def essential (cs : List Char) : List Char :=
  (cs.filter fun c => c.toNat < 0x80 && c != ' ' && c != '_' && c != '-').map Char.toLower

/-- A name in its loose form. -/
def loose (name : String) : String :=
  let cs := name.toList
  if isIs (cs.take 2) then
    let rest := essential (cs.drop 2)
    String.ofList (if rest == ['c'] then ['i', 's', 'c'] else rest)
  else String.ofList (essential cs)

/-- The loose names of the properties whose values stand for no set. -/
def otherProperties : List String :=
  ["bc", "bidiclass", "bidimirroringglyph", "bidipairedbracket", "bidipairedbrackettype", "blk",
    "block", "bmg", "bpb", "bpt", "canonicalcombiningclass", "casefolding", "ccc", "cf",
    "decompositionmapping", "decompositiontype", "dm", "dt", "ea", "eastasianwidth", "equideo",
    "equivalentunifiedideograph", "fcnfkc", "fcnfkcclosure", "hangulsyllabletype", "hst",
    "indicpositionalcategory", "indicsyllabiccategory", "inpc", "insc", "isc", "isocomment",
    "jamoshortname", "jg", "joininggroup", "joiningtype", "jsn", "jt", "lb", "lc", "linebreak",
    "lowercasemapping", "na", "na1", "name", "namealias", "nfcqc", "nfcquickcheck", "nfdqc",
    "nfdquickcheck", "nfkccasefold", "nfkccf", "nfkcqc", "nfkcquickcheck", "nfkdqc",
    "nfkdquickcheck", "nt", "numerictype", "numericvalue", "nv", "scf", "sfc", "simplecasefolding",
    "simplelowercasemapping", "simpletitlecasemapping", "simpleuppercasemapping", "slc", "stc",
    "suc", "tc", "titlecasemapping", "uc", "unicode1name", "unicoderadicalstroke",
    "uppercasemapping", "urs", "verticalorientation", "vo"]

/-- Loose names of categories and scripts that no character of a text can have. -/
def emptyValues : List String :=
  ["cs", "surrogate", "zzzz", "unknown", "hrkt", "katakanaorhiragana"]

/-- A set that was looked for under a value. -/
def valueOr (s : Option CharSet) : Except Cause CharSet :=
  match s with
  | some s => .ok s
  | none => .error .propertyValueUnknown

/-- The set with a name alone. -/
def namedSet (name : String) : Except Cause CharSet :=
  let name := loose name
  let property :=
    if ["cf", "sc", "lc"].contains name then none else Property.byName name
  match property, Category.byName name, Script.byName name with
  | some s, _, _ => .ok s
  | none, some s, _ => .ok s
  | none, none, some s => .ok s
  | none, none, none =>
    .error (if emptyValues.contains name then .propertyValueUnknown else .propertyUnknown)

/-- The set with a property and a value. -/
def valuedSet (property value : String) : Except Cause CharSet :=
  let property := loose property
  let value := loose value
  if property == "gc" || property == "generalcategory" then valueOr (Category.byName value)
  else if property == "sc" || property == "script" then valueOr (Script.byName value)
  else if property == "scx" || property == "scriptextensions" then
    valueOr (Script.extendedByName value)
  else if property == "age" then valueOr (Age.byName value)
  else if property == "gcb" || property == "graphemeclusterbreak" then
    valueOr (Break.clusterByName value)
  else if property == "wb" || property == "wordbreak" then valueOr (Break.wordByName value)
  else if property == "sb" || property == "sentencebreak" then valueOr (Break.sentenceByName value)
  else if otherProperties.contains property || (Property.byName property).isSome then
    .error .propertyValueUnknown
  else .error .propertyUnknown

/-- The set that a name stands for. -/
def PropertyName.set : PropertyName → Except Cause CharSet
  | .letter c => namedSet (String.ofList [c])
  | .named name => namedSet name
  | .valued property value _ => valuedSet property value

/-- Does a name stand for the complement of its set, when it is negated or not by its escape? -/
def PropertyName.complements (negated : Bool) : PropertyName → Bool
  | .valued _ _ true => !negated
  | _ => negated

/-- The set of a class between colons. -/
def PosixName.set : PosixName → CharSet
  | .alnum => CharSet.ofText "30-39 41-5A 61-7A"
  | .alpha => CharSet.ofText "41-5A 61-7A"
  | .ascii => CharSet.ofText "0-7F"
  | .blank => CharSet.ofText "9 20"
  | .cntrl => CharSet.ofText "0-1F 7F"
  | .digit => CharSet.ofText "30-39"
  | .graph => CharSet.ofText "21-7E"
  | .lower => CharSet.ofText "61-7A"
  | .print => CharSet.ofText "20-7E"
  | .punct => CharSet.ofText "21-2F 3A-40 5B-60 7B-7E"
  | .space => CharSet.ofText "9-D 20"
  | .upper => CharSet.ofText "41-5A"
  | .word => CharSet.ofText "30-39 41-5A 5F 61-7A"
  | .xdigit => CharSet.ofText "30-39 41-46 61-66"

/-- The characters that count as parts of a word. -/
def wordSet : CharSet :=
  CharSet.unions [Property.alphabetic, Category.mark, Category.decimalNumber,
    Category.connectorPunctuation, Property.joinControl]

/-- The set of a one-letter class, over all characters. -/
def Shorthand.set : Shorthand → CharSet
  | .digit => Category.decimalNumber
  | .space => Property.whiteSpace
  | .word => wordSet

/-- The set of a one-letter class, over ASCII. -/
def Shorthand.asciiSet : Shorthand → CharSet
  | .digit => PosixName.digit.set
  | .space => PosixName.space.set
  | .word => PosixName.word.set

end ReleaseGate.Pattern
