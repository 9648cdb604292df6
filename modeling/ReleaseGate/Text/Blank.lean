/-!
# Blank text — the Unicode `White_Space` class and trimming

A field of a profile counts as empty when nothing but white space is left of it, and a snapshot
source counts as given when something else is. Both questions are answered by `isBlank`, which is
the `White_Space` property of Unicode and so wider than the six ASCII characters.
-/

namespace ReleaseGate.Text

/-- The characters with the Unicode property `White_Space`. -/
def isBlank (c : Char) : Bool :=
  let n := c.toNat
  (0x9 ≤ n && n ≤ 0xD) || n == 0x20 || n == 0x85 || n == 0xA0 || n == 0x1680 ||
    (0x2000 ≤ n && n ≤ 0x200A) || n == 0x2028 || n == 0x2029 || n == 0x202F || n == 0x205F ||
    n == 0x3000

/-- A text that holds nothing but white space. -/
def blank (s : String) : Bool :=
  s.toList.all isBlank

/-- A list of characters without the white space at its end. -/
def trimEnd (cs : List Char) : List Char :=
  (cs.reverse.dropWhile isBlank).reverse

/-- A text without the white space at either end. -/
def trim (s : String) : String :=
  String.ofList (trimEnd (s.toList.dropWhile isBlank))

/-- Does `needle` occur somewhere in `cs`? -/
def occursIn (needle : List Char) : List Char → Bool
  | [] => needle.isEmpty
  | c :: cs => needle.isPrefixOf (c :: cs) || occursIn needle cs

/-- Does the text `needle` occur somewhere in `s`? -/
def contains (s needle : String) : Bool :=
  occursIn needle.toList s.toList

end ReleaseGate.Text
