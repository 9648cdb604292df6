import ReleaseGate.Misfit
import ReleaseGate.Number.Shortest
import ReleaseGate.Yaml.Event

/-!
# Scalars — the values that texts without quotes stand for

A text without quotes may stand for nothing, for a truth value or for a number. Profiles hold texts
only, so the value matters in two places: in messages, and when a text is written that would be
taken for something else.
-/

namespace ReleaseGate.Yaml.Scalar

/-- A text that stands for nothing. -/
def isNull (text : List Char) : Bool :=
  ["null", "Null", "NULL", "~"].any fun s => s.toList == text

/-- The truth value that a text stands for. -/
def boolean? (text : List Char) : Option Bool :=
  if ["true", "True", "TRUE"].any fun s => s.toList == text then some true
  else if ["false", "False", "FALSE"].any fun s => s.toList == text then some false
  else none

/-- A text without its first character if that is the given one. -/
def after? (c : Char) : List Char → Option (List Char)
  | [] => none
  | x :: rest => if x == c then some rest else none

/-- Does a text begin with a sign? -/
def signed (text : List Char) : Bool :=
  text.head? == some '+' || text.head? == some '-'

/-- A text without the sign that it may begin with. -/
def unsigned (text : List Char) : List Char :=
  if signed text then text.drop 1 else text

/-- A zero with further digits behind it: these are no number. -/
def hasLeadingZero (text : List Char) : Bool :=
  match unsigned text with
  | '0' :: d :: rest => (d :: rest).all Char.isDigit
  | _ => false

/-- The value of a digit in a base up to sixteen. -/
def digit? (base : Nat) (c : Char) : Option Nat :=
  (hexValue? c).filter (· < base)

/-- The number that digits stand for; at least one is needed. -/
def natural? (base : Nat) (text : List Char) : Option Nat :=
  if text.isEmpty then none
  else text.foldlM (fun n c => do return n * base + (← digit? base c)) 0

/-- The marks of bases behind a zero. -/
def bases : List (Char × Nat) :=
  [('x', 16), ('o', 8), ('b', 2)]

/-- The number that a text without a sign stands for, with a mark of its base or in base ten. -/
def magnitude? (text : List Char) : Option Nat :=
  match text with
  | '0' :: mark :: digits =>
    match bases.lookup mark with
    | some base => natural? base digits
    | none => natural? 10 text
  | _ => natural? 10 text

/-- The whole number that a text stands for. -/
def integer? (text : List Char) : Option Int :=
  if hasLeadingZero text then none
  else match after? '-' text with
    | some rest => (magnitude? rest).map fun n => -(n : Int)
    | none => (magnitude? ((after? '+' text).getD text)).map fun n => (n : Int)

/-- The range of whole numbers with 64 bits, with a sign or without. -/
def isShort (n : Int) : Bool :=
  -Nat.pow 2 63 ≤ n && n < Nat.pow 2 64

/-- The range of whole numbers with 128 bits, with a sign or without. -/
def isLong (n : Int) : Bool :=
  -Nat.pow 2 127 ≤ n && n < Nat.pow 2 128

/-- The parts of a number that need not be whole: its digits before and behind the point, and its
exponent. -/
structure Decimal where
  whole : List Char
  fraction : List Char
  exponent : Int
  deriving Repr, DecidableEq

/-- The exponent behind its mark. -/
def exponent? (text : List Char) : Option Int := do
  let n ← natural? 10 (unsigned text)
  return if text.head? == some '-' then -(n : Int) else n

/-- The parts of a number without a sign. -/
def decimal? (text : List Char) : Option Decimal :=
  let whole := text.takeWhile Char.isDigit
  let rest := text.dropWhile Char.isDigit
  let (fraction, rest) := match after? '.' rest with
    | some rest => (rest.takeWhile Char.isDigit, rest.dropWhile Char.isDigit)
    | none => ([], rest)
  if whole.isEmpty && fraction.isEmpty then none
  else match rest with
    | [] => some ⟨whole, fraction, 0⟩
    | c :: rest =>
      if c == 'e' || c == 'E' then (exponent? rest).map fun e => ⟨whole, fraction, e⟩ else none

/-- The double nearest to a number; none beyond the largest finite one. A number far outside the
range of doubles is settled by its size alone. -/
def Decimal.double? (negative : Bool) (d : Decimal) : Option Binary64 :=
  let digits := (d.whole ++ d.fraction).dropWhile (· == '0')
  let power := d.exponent - d.fraction.length
  let size := digits.length + power
  if digits.isEmpty || size < -400 then some ⟨negative, 0, 0⟩
  else if 400 < size then none
  else do
    let n ← natural? 10 digits
    match power with
    | .ofNat k => Binary64.round negative (n * Nat.pow 10 k) 1
    | .negSucc k => Binary64.round negative n (Nat.pow 10 (k + 1))

/-- The double that a text stands for, as it is shown. -/
def float? (text : List Char) : Option String :=
  let bare := (after? '+' text).getD text
  if text.head? == some '+' && signed bare then none
  else if [".inf", ".Inf", ".INF"].any fun s => s.toList == bare then some "inf"
  else if ["-.inf", "-.Inf", "-.INF"].any fun s => s.toList == text then some "-inf"
  else if [".nan", ".NaN", ".NAN"].any fun s => s.toList == text then some "NaN"
  else do
    let d ← decimal? (unsigned bare)
    let x ← d.double? (bare.head? == some '-')
    return x.positional

/-- The word for no value. -/
def nothingWord : String := "unit value"

/-- A whole number as it is found. -/
def foundInteger (n : Int) : Found :=
  if isShort n then .integer n else .longInteger n

/-- What a text without quotes stands for. -/
def foundPlain (text : List Char) : Found :=
  if text.isEmpty || isNull text then .nothing nothingWord
  else match boolean? text with
    | some b => .boolean b
    | none =>
      match (integer? text).filter isLong with
      | some n => foundInteger n
      | none =>
        match if hasLeadingZero text then none else float? text with
        | some numeral => .float numeral
        | none => .text (String.ofList text)

/-- A tag that the format defines. -/
def standardTag (name : String) : TagText :=
  standardPrefix ++ Tag.octets name.toList

/-- Why a scalar is not what was expected. A tag can ask for a kind that its text does not have. -/
def misfit (tag : Option TagText) (text : List Char) (plain : Bool) (expected : String) : Misfit :=
  let shown := String.ofList text
  let asked (found : Option Found) (kind : String) : Misfit :=
    match found with
    | some f => .kind f expected
    | none => .value (.text shown) kind
  let untagged : Misfit := .kind (if plain then foundPlain text else .text shown) expected
  match tag with
  | none => untagged
  | some t =>
    if t == standardTag "bool" then asked ((boolean? text).map .boolean) "a boolean"
    else if t == standardTag "int" then
      asked (((integer? text).filter isLong).map foundInteger) "an integer"
    else if t == standardTag "float" then asked ((float? text).map .float) "a float"
    else if t == standardTag "null" then
      asked (if isNull text then some (.nothing nothingWord) else none) "null"
    else if t.head? == some 0x21 then untagged
    else .kind (.text shown) expected

end ReleaseGate.Yaml.Scalar
