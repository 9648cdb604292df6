import ReleaseGate.Json.Value

/-!
# Writing JSON — compact texts

The compact text of a value has no blanks. In strings, the quotation mark, the backslash and the
control characters are written as escapes, the common ones with one letter and the others with their
number; every other character stands for itself.
-/

namespace ReleaseGate.Json

/-- A character as it is written in a string. -/
def escape (c : Char) : List Char :=
  if c == '"' then ['\\', '"']
  else if c == '\\' then ['\\', '\\']
  else if c == '\x08' then ['\\', 'b']
  else if c == '\t' then ['\\', 't']
  else if c == '\n' then ['\\', 'n']
  else if c == '\x0c' then ['\\', 'f']
  else if c == '\r' then ['\\', 'r']
  else if c.toNat < 0x20 then
    ['\\', 'u', '0', '0', Nat.digitChar (c.toNat / 16), Nat.digitChar (c.toNat % 16)]
  else [c]

/-- The text of a string. -/
def quoted (s : String) : List Char :=
  '"' :: (s.toList.flatMap escape ++ ['"'])

/-- Texts in a row, with commas between them. -/
def row : List (List Char) → List Char
  | [] => []
  | first :: rest => first ++ rest.flatMap (',' :: ·)

/-- The text of a list, from the texts of its items. -/
def listed (items : List (List Char)) : List Char :=
  '[' :: (row items ++ [']'])

/-- The text of a member, from its key and the text of its value. -/
def member (m : String × List Char) : List Char :=
  quoted m.1 ++ ':' :: m.2

/-- The text of an object, from the texts of its members in the order in which they are written. -/
def braced (members : List (String × List Char)) : List Char :=
  '\x7b' :: (row (members.map member) ++ ['\x7d'])

end ReleaseGate.Json
