import ReleaseGate.Text.Blank

/-!
# Digests — the part of an image reference behind the at sign

An image pinned by digest is written `name@sha256:…`. What follows the first at sign is the digest,
whatever it looks like; `isSha256` is the form a digest should have. The number of hexadecimal
digits is not checked, so a shortened digest still compares.
-/

namespace ReleaseGate.Digest

/-- The text behind the first at sign of an image reference. -/
def ofImage (image : String) : Option String :=
  match image.toList.dropWhile (· != '@') with
  | [] => none
  | _ :: rest => some (String.ofList rest)

/-- A hexadecimal digit in lower case. -/
def isHexDigit (c : Char) : Bool :=
  ('a' ≤ c && c ≤ 'f') || ('0' ≤ c && c ≤ '9')

/-- The characters every digest of this kind begins with. -/
def algorithm : List Char :=
  ['s', 'h', 'a', '2', '5', '6', ':']

/-- The form `sha256:` with one or more lower-case hexadecimal digits and nothing else. -/
def isSha256 (value : String) : Bool :=
  let cs := value.toList
  let digits := cs.drop algorithm.length
  algorithm.isPrefixOf cs && !digits.isEmpty && digits.all isHexDigit

end ReleaseGate.Digest
