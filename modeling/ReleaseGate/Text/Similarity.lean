/-!
# Similarity — how much two words look alike

Two characters of different words agree when they are equal and stand in about the same place: no
further apart than half the longer word. Every character agrees with at most one other, and the
earliest free one is taken. The similarity is the mean of three shares: the agreeing characters in
the one word, those in the other word, and the agreeing pairs that are in the right order.
-/

namespace ReleaseGate.Text

/-- A share, as a quotient of two numbers. -/
structure Share where
  part : Nat
  whole : Nat
  deriving Repr, DecidableEq

namespace Share

/-- Is the first share greater than the second? -/
def exceeds (s t : Share) : Bool :=
  t.part * s.whole < s.part * t.whole

end Share

/-- Mark the first free character of a word that equals `c` and stands at a place from `low` up to
but not including `high`; `place` is the place of the first character of the rest. -/
def markFirst (c : Char) (low high place : Nat) :
    List (Char × Bool) → Option (List (Char × Bool))
  | [] => none
  | (d, taken) :: rest =>
    if low ≤ place && place < high && !taken && d == c then some ((d, true) :: rest)
    else (markFirst c low high (place + 1) rest).map ((d, taken) :: ·)

/-- The agreeing characters of the first word from a place on, and the second word with those that
agree marked. -/
def agreeing (reach place : Nat) (other : List (Char × Bool)) :
    List Char → List Char × List (Char × Bool)
  | [] => ([], other)
  | c :: rest =>
    match markFirst c (place - reach) (place + reach + 1) 0 other with
    | none => agreeing reach (place + 1) other rest
    | some other =>
      let (agreed, other) := agreeing reach (place + 1) other rest
      (c :: agreed, other)

/-- How far apart two agreeing characters may stand. -/
def reachOf (a b : List Char) : Nat :=
  max a.length b.length / 2 - 1

/-- The similarity of two words. -/
def similarity (a b : List Char) : Share :=
  let (agreed, marked) := agreeing (reachOf a b) 0 (b.map fun c => (c, false)) a
  let others := (marked.filter (·.2)).map (·.1)
  let swapped := ((agreed.zip others).filter fun (c, d) => c != d).length / 2
  let m := agreed.length
  if m == 0 then ⟨if a.isEmpty && b.isEmpty then 1 else 0, 1⟩
  else
    ⟨m * m * b.length + m * m * a.length + (m - swapped) * a.length * b.length,
      3 * m * a.length * b.length⟩

/-- The least similarity of words that one takes for the other is more than this. -/
def likeness : Share := ⟨7, 10⟩

/-- The better of a candidate and the best before it, if either is like the word; of two equals the
later one. -/
def betterMatch {α : Type} (word : List Char) (name : α → String) (best : Option α) (x : α) :
    Option α :=
  let score (y : α) : Share := similarity word (name y).toList
  if !(score x).exceeds likeness then best
  else match best with
    | none => some x
    | some y => if (score y).exceeds (score x) then some y else some x

/-- The candidate whose name is most like a word, if one is like it at all. -/
def closest {α : Type} (word : String) (name : α → String) (candidates : List α) : Option α :=
  candidates.foldl (betterMatch word.toList name) none

end ReleaseGate.Text
