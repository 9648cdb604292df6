import ReleaseGate.Unicode.Table

/-!
# Sets of characters — sorted ranges of code points

A set is a list of closed ranges in ascending order that neither touch nor overlap. Membership
stops at the first range that lies above the character, so a look-up of an ASCII character in a
long table is short. Union and complement are the two primitives; intersection and the two
differences are written with them.
-/

namespace ReleaseGate.Unicode

/-- A set of code points, as ascending ranges. -/
structure CharSet where
  ranges : List (Nat × Nat)
  deriving Repr, DecidableEq, Inhabited

namespace CharSet

/-- The largest code point. -/
def top : Nat := 0x10FFFF

/-- Is the number `n` in one of the ascending ranges? -/
def within (n : Nat) : List (Nat × Nat) → Bool
  | [] => false
  | (lo, hi) :: rest => if n < lo then false else n ≤ hi || within n rest

/-- Does the character belong to the set? -/
def contains (s : CharSet) (c : Char) : Bool :=
  within c.toNat s.ranges

/-- The empty set. -/
def empty : CharSet := ⟨[]⟩

/-- All code points. -/
def all : CharSet := ⟨[(0, top)]⟩

/-- The set of one character. -/
def single (c : Char) : CharSet := ⟨[(c.toNat, c.toNat)]⟩

/-- Ascending ranges together with the range from `lo` to `hi`, which takes in every range that it
touches or overlaps. -/
def insert (lo hi : Nat) : List (Nat × Nat) → List (Nat × Nat)
  | [] => [(lo, hi)]
  | (lo', hi') :: rest =>
    if hi + 1 < lo' then (lo, hi) :: (lo', hi') :: rest
    else if hi' + 1 < lo then (lo', hi') :: insert lo hi rest
    else insert (min lo lo') (max hi hi') rest

/-- The set covered by ranges in any order. -/
def ofRanges (rs : List (Nat × Nat)) : CharSet :=
  ⟨rs.foldr (fun r acc => insert r.1 r.2 acc) []⟩

/-- The union of two sets. -/
def union (a b : CharSet) : CharSet :=
  ofRanges (a.ranges ++ b.ranges)

/-- The union of several sets. -/
def unions (ss : List CharSet) : CharSet :=
  ofRanges (ss.flatMap ranges)

/-- The gaps between ascending ranges, from `start` up to the largest code point. -/
def gaps (start : Nat) : List (Nat × Nat) → List (Nat × Nat)
  | [] => if start ≤ top then [(start, top)] else []
  | (lo, hi) :: rest =>
    if start < lo then (start, lo - 1) :: gaps (hi + 1) rest else gaps (hi + 1) rest

/-- All code points outside the set. -/
def complement (s : CharSet) : CharSet :=
  ⟨gaps 0 s.ranges⟩

/-- The characters in both sets. -/
def inter (a b : CharSet) : CharSet :=
  (a.complement.union b.complement).complement

/-- The characters of `a` that are not in `b`. -/
def diff (a b : CharSet) : CharSet :=
  a.inter b.complement

/-- The characters in exactly one of the two sets. -/
def symmDiff (a b : CharSet) : CharSet :=
  (a.diff b).union (b.diff a)

/-- Does the set hold ASCII characters only? -/
def isAscii (s : CharSet) : Bool :=
  s.ranges.all fun r => r.2 < 0x80

/-- A row of a table as a range: one number stands for itself. -/
def rangeOf : List Nat → Option (Nat × Nat)
  | [n] => some (n, n)
  | [lo, hi] => some (lo, hi)
  | _ => none

/-- The set written as ascending hexadecimal ranges such as `41-5A 61`. -/
def ofText (s : String) : CharSet :=
  ⟨(Table.rows '-' s).filterMap rangeOf⟩

end CharSet

end ReleaseGate.Unicode
