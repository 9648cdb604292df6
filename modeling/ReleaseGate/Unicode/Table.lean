/-!
# Tables — rows of hexadecimal numbers in a text

The tables of characters are written as rows between blanks; the numbers of a row are joined by a
separator. Reading a table drops the blanks and keeps the order.
-/

namespace ReleaseGate.Unicode.Table

/-- The value of a hexadecimal digit in upper case. -/
def digit (c : Char) : Nat :=
  if c ≤ '9' then c.toNat - '0'.toNat else c.toNat - 'A'.toNat + 10

/-- The row that ends where `value` is its last number, if it has one, and `before` holds the others,
last first. -/
def finish (before : List Nat) : Option Nat → List (List Nat)
  | none => []
  | some value => [(value :: before).reverse]

/-- Read rows: `before` holds the numbers of the current row, last first, and `value` the number
being read. -/
def readRows (separator : Char) (before : List Nat) (value : Option Nat) :
    List Char → List (List Nat)
  | [] => finish before value
  | c :: cs =>
    if c == ' ' || c == '\n' then finish before value ++ readRows separator [] none cs
    else if c == separator then readRows separator (value.toList ++ before) none cs
    else readRows separator before (some (value.getD 0 * 16 + digit c)) cs

/-- The rows of a table. -/
def rows (separator : Char) (text : String) : List (List Nat) :=
  readRows separator [] none text.toList

end ReleaseGate.Unicode.Table
