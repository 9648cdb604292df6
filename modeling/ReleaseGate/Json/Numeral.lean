import ReleaseGate.Json.Value

/-!
# Numerals — reading a JSON number digit by digit

The digits are gathered into a significand of at most 64 bits. Digits that no longer fit are
dropped: before the point each dropped digit raises the power of ten, after the point the first
one that does not fit ends the counting. A whole number that fits stays whole; anything else
becomes a double by `Binary64.ofDecimal`.
-/

namespace ReleaseGate.Json

/-- How far the reader is in a number. -/
inductive Numeral.Stage where
  /-- Behind a minus sign. -/
  | sign
  /-- Behind a leading zero. -/
  | zero
  /-- Among the digits before the point. -/
  | whole
  /-- Behind the point, no digit yet. -/
  | point
  /-- Among the digits after the point. -/
  | fraction
  /-- Behind the exponent mark. -/
  | mark
  /-- Behind the sign of the exponent. -/
  | markSign
  /-- Among the digits of the exponent. -/
  | exponent
  deriving Repr, DecidableEq

/-- The part of a number read so far. -/
structure Numeral where
  stage : Numeral.Stage
  negative : Bool
  significand : Nat
  /-- The power of ten that the digits read so far leave to the significand. -/
  power : Int
  /-- A digit before the point has been dropped. -/
  long : Bool
  /-- A digit after the point has been dropped, and with it all that follow. -/
  dropping : Bool
  exponentNegative : Bool
  exponent : Nat
  /-- The exponent is so large that the number is zero whatever follows. -/
  vanished : Bool
  deriving Repr

namespace Numeral

/-- The largest significand. -/
def largest : Nat := Nat.pow 2 64 - 1

/-- A number that starts with the given character, if one does. -/
def start (c : Char) : Option Numeral :=
  let base : Numeral := ⟨.sign, false, 0, 0, false, false, false, 0, false⟩
  if c == '-' then some { base with negative := true }
  else if c == '0' then some { base with stage := .zero }
  else if '1' ≤ c && c ≤ '9' then
    some { base with stage := .whole, significand := c.toNat - '0'.toNat }
  else none

/-- What one more character does to a number. -/
inductive Step where
  /-- The number goes on. -/
  | more (n : Numeral)
  /-- The number ends before the character. -/
  | stop
  /-- The character makes the number wrong. -/
  | wrong (cause : Cause)

/-- One more digit before the point. -/
private def addWhole (n : Numeral) (d : Nat) : Numeral :=
  let value := n.significand * 10 + d
  if n.long then { n with power := n.power + 1 }
  else if largest < value then { n with long := true, power := n.power + 1 }
  else { n with significand := value }

/-- One more digit after the point. -/
private def addFraction (n : Numeral) (d : Nat) : Numeral :=
  let value := n.significand * 10 + d
  let n := { n with stage := .fraction }
  if n.dropping then n
  else if largest < value then { n with dropping := true }
  else { n with significand := value, power := n.power - 1 }

/-- One more digit of the exponent. -/
private def addExponent (n : Numeral) (d : Nat) : Step :=
  let value := n.exponent * 10 + d
  if n.vanished then .more n
  else if Nat.pow 2 31 - 1 < value then
    if n.significand != 0 && !n.exponentNegative then .wrong .numberOutOfRange
    else .more { n with vanished := true }
  else .more { n with stage := .exponent, exponent := value }

/-- Feed the number one more character. -/
def step (n : Numeral) (c : Char) : Step :=
  let digit := c.toNat - '0'.toNat
  match n.stage with
  | .sign =>
    if c == '0' then .more { n with stage := .zero }
    else if c.isDigit then .more { n with stage := .whole, significand := digit }
    else .wrong .invalidNumber
  | .zero =>
    if c.isDigit then .wrong .invalidNumber
    else if c == '.' then .more { n with stage := .point }
    else if c == 'e' || c == 'E' then .more { n with stage := .mark }
    else .stop
  | .whole =>
    if c.isDigit then .more (addWhole n digit)
    else if c == '.' then .more { n with stage := .point }
    else if c == 'e' || c == 'E' then .more { n with stage := .mark }
    else .stop
  | .point => if c.isDigit then .more (addFraction n digit) else .wrong .invalidNumber
  | .fraction =>
    if c.isDigit then .more (addFraction n digit)
    else if c == 'e' || c == 'E' then .more { n with stage := .mark }
    else .stop
  | .mark =>
    if c == '+' then .more { n with stage := .markSign }
    else if c == '-' then .more { n with stage := .markSign, exponentNegative := true }
    else if c.isDigit then addExponent { n with stage := .exponent } digit
    else .wrong .invalidNumber
  | .markSign =>
    if c.isDigit then addExponent { n with stage := .exponent } digit else .wrong .invalidNumber
  | .exponent => if c.isDigit then addExponent n digit else .stop

/-- The value as a double. -/
private def asFloat (n : Numeral) : Except Cause Json :=
  if n.vanished then .ok (.float ⟨n.negative, 0, 0⟩)
  else
    let e : Int := if n.exponentNegative then -(n.exponent : Int) else n.exponent
    match Binary64.ofDecimal n.negative n.significand (n.power + e) with
    | some x => .ok (.float x)
    | none => .error .numberOutOfRange

/-- The value of a number that ends here. -/
def finish (n : Numeral) : Except Cause Json :=
  match n.stage with
  | .sign | .point | .mark | .markSign => .error .endInValue
  | .fraction | .exponent => asFloat n
  | .zero | .whole =>
    if n.long then asFloat n
    else if !n.negative then .ok (.natural n.significand)
    else if n.significand != 0 && n.significand ≤ Nat.pow 2 63 then .ok (.negative n.significand)
    else asFloat n

end Numeral

end ReleaseGate.Json
