import ReleaseGate.Unicode.CharSet

/-!
# Octets — a set of characters as ranges of bytes

An automaton reads a text byte by byte. So the characters of a set are written as rows of ranges,
one range for each byte of their UTF-8 form: every choice of bytes from the ranges of a row is the
form of one character. The rows ascend.
-/

namespace ReleaseGate.Pattern

open Unicode

/-- A closed range of bytes. -/
abbrev Octets := Nat × Nat

namespace Octets

/-- The bytes of a number: so many digits to the base 64 behind the first byte, which is the rest of
the number on top of `lead`. -/
def form (lead : Nat) : Nat → Nat → List Nat
  | 0, n => [lead + n]
  | digits + 1, n => form lead digits (n / 64) ++ [0x80 + n % 64]

/-- The row for a number alone. -/
def only (lead digits n : Nat) : List Octets :=
  (form lead digits n).map fun b => (b, b)

/-- The row for the numbers of a block of 64 whose last digit is from `first` on and below `stop`, if
there are any, in front of `behind`. -/
def part (lead digits block first stop : Nat) (behind : List Octets) : List (List Octets) :=
  if first < stop then [only lead digits block ++ (0x80 + first, 0x80 + (stop - 1)) :: behind]
  else []

/-- The rows for the numbers from `lo` on and below `stop`, each in front of `behind`. Where the
numbers begin or end in the midst of a block of 64, that block has a row of its own. -/
def rows (lead : Nat) : Nat → Nat → Nat → List Octets → List (List Octets)
  | 0, lo, stop, behind =>
    if lo < stop then [(lead + lo, lead + (stop - 1)) :: behind] else []
  | digits + 1, lo, stop, behind =>
    if lo / 64 = stop / 64 then part lead digits (lo / 64) (lo % 64) (stop % 64) behind
    else
      (if lo % 64 = 0 then [] else part lead digits (lo / 64) (lo % 64) 64 behind)
        ++ rows lead digits ((lo + 63) / 64) (stop / 64) ((0x80, 0xBF) :: behind)
        ++ part lead digits (stop / 64) 0 (stop % 64) behind

/-- Code points whose characters have as many bytes. -/
structure Stretch where
  first : Nat
  last : Nat
  /-- What is added to the first byte. -/
  lead : Nat
  /-- The number of bytes behind the first. -/
  digits : Nat

/-- All characters. There are none between the third stretch and the fourth. -/
def stretches : List Stretch :=
  [⟨0, 0x7F, 0, 0⟩, ⟨0x80, 0x7FF, 0xC0, 1⟩, ⟨0x800, 0xD7FF, 0xE0, 2⟩, ⟨0xE000, 0xFFFF, 0xE0, 2⟩,
    ⟨0x10000, 0x10FFFF, 0xF0, 3⟩]

/-- The rows for the part of a range that lies in a stretch. -/
def rowsWithin (r : Nat × Nat) (s : Stretch) : List (List Octets) :=
  let lo := max r.1 s.first
  let hi := min r.2 s.last
  if lo ≤ hi then rows s.lead s.digits lo (hi + 1) [] else []

/-- The rows for a set of characters. -/
def ofSet (s : CharSet) : List (List Octets) :=
  s.ranges.flatMap fun r => stretches.flatMap (rowsWithin r)

/-- The bytes of the character with a code point. -/
def encoded (n : Nat) : List Nat :=
  match stretches.find? fun s => s.first ≤ n && n ≤ s.last with
  | some s => form s.lead s.digits n
  | none => []

end Octets

end ReleaseGate.Pattern
