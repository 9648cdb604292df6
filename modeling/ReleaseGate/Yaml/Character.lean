/-!
# YAML characters — the classes of characters that the format tells apart

A line break is a line feed, a carriage return, both together, a next-line character, a line
separator or a paragraph separator. All but the last two read as a line feed.
-/

namespace ReleaseGate.Yaml

/-- A character that ends a line. -/
def isBreak (c : Char) : Bool :=
  c == '\n' || c == '\r' || c == '\u0085' || c == '\u2028' || c == '\u2029'

/-- A space or a tab. -/
def isBlank (c : Char) : Bool :=
  c == ' ' || c == '\t'

/-- A character between words: a blank or a line break. -/
def isGap (c : Char) : Bool :=
  isBlank c || isBreak c

/-- A character of names: an ASCII letter or digit, a hyphen or an underscore. -/
def isNameChar (c : Char) : Bool :=
  c.isAlphanum || c == '-' || c == '_'

/-- The value of a hexadecimal digit. -/
def hexValue? (c : Char) : Option Nat :=
  if c.isDigit then some (c.toNat - '0'.toNat)
  else if 'a' ≤ c && c ≤ 'f' then some (c.toNat - 'a'.toNat + 10)
  else if 'A' ≤ c && c ≤ 'F' then some (c.toNat - 'A'.toNat + 10)
  else none

/-- A line break as it is read. -/
def readBreak (c : Char) : Char :=
  if c == '\u2028' || c == '\u2029' then c else '\n'

/-- A character that may stand in a YAML text. -/
def isAllowed (c : Char) : Bool :=
  let n := c.toNat
  n == 0x09 || n == 0x0A || n == 0x0D || (0x20 ≤ n && n ≤ 0x7E) || n == 0x85 ||
    (0xA0 ≤ n && n ≤ 0xD7FF) || (0xE000 ≤ n && n ≤ 0xFFFD) || 0x10000 ≤ n

/-- A character that is written as itself. -/
def isPrintable (c : Char) : Bool :=
  let n := c.toNat
  n == 0x0A || (0x20 ≤ n && n ≤ 0x7E) || (0xA0 ≤ n && n ≤ 0xD7FF) ||
    (0xE000 ≤ n && n ≤ 0xFFFD && n != 0xFEFF) || 0x10000 ≤ n

/-- Do characters begin with a gap, or is nothing left of them? -/
def gapOrEnd : List Char → Bool
  | [] => true
  | c :: _ => isGap c

/-- Do characters begin with a line break, or is nothing left of them? -/
def breakOrEnd : List Char → Bool
  | [] => true
  | c :: _ => isBreak c

/-- The line breaks among characters as they are read. -/
def breaksOf : List Char → List Char
  | [] => []
  | '\r' :: '\n' :: rest => '\n' :: breaksOf rest
  | c :: rest => if isBreak c then readBreak c :: breaksOf rest else breaksOf rest

/-- Line breaks between two words of a folded text: a single line feed becomes a space, and of
several breaks the first one goes when it is a line feed. -/
def foldBreaks : List Char → List Char
  | [] => []
  | '\n' :: [] => [' ']
  | '\n' :: more => more
  | breaks => breaks

/-- A gap between two words of a folded text: blanks stay unless there is a line break. -/
def foldGap (gap : List Char) : List Char :=
  match breaksOf gap with
  | [] => gap
  | breaks => foldBreaks breaks

end ReleaseGate.Yaml
