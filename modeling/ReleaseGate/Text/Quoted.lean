import ReleaseGate.Unicode.Category
import ReleaseGate.Unicode.Property

/-!
# Quoted text — a text in double quotes with what cannot be seen escaped

File names and digests are shown in quotes in messages. A character is written as itself when a
reader would see it as one: control and format characters, unassigned code points, separators other
than the space and marks that join the character before them appear as escapes instead.
-/

namespace ReleaseGate.Text

open Unicode

/-- The characters that show nothing of their own: control, format, private and unassigned code
points, and every separator but the space. -/
def unseen : CharSet :=
  (CharSet.unions [Category.control, Category.format, Category.privateUse, Category.unassigned,
    Category.lineSeparator, Category.paragraphSeparator, Category.spaceSeparator]).diff
    (CharSet.single ' ')

/-- The code point of a character in lower-case hexadecimal. -/
def hexDigits (n : Nat) : List Char :=
  Nat.toDigits 16 n

/-- The escape `\u` with the code point in braces. -/
def codePointEscape (c : Char) : List Char :=
  '\\' :: 'u' :: '\x7b' :: (hexDigits c.toNat ++ ['\x7d'])

/-- One character as it stands between the quotes. -/
def quoteChar (c : Char) : List Char :=
  if c == '\x00' then ['\\', '0']
  else if c == '\t' then ['\\', 't']
  else if c == '\r' then ['\\', 'r']
  else if c == '\n' then ['\\', 'n']
  else if c == '"' then ['\\', '"']
  else if c == '\\' then ['\\', '\\']
  else if ' ' ≤ c && c ≤ '~' then [c]
  else if Property.graphemeExtend.contains c || unseen.contains c then codePointEscape c
  else [c]

/-- A text in double quotes. -/
def quoted (s : String) : String :=
  String.ofList ('"' :: (s.toList.flatMap quoteChar ++ ['"']))

/-- An optional text: `Some` with the quoted text, or `None`. -/
def quotedOption : Option String → String
  | some s => "Some(" ++ quoted s ++ ")"
  | none => "None"

end ReleaseGate.Text
