import ReleaseGate.Unicode.CharSet

/-!
# Core patterns — what a pattern means

A core pattern is built from sets of characters, conditions on a position and five ways of putting
patterns together. Flags, escapes and classes are gone: a set says which characters it takes, and a
repetition says whether it prefers more or fewer.
-/

namespace ReleaseGate.Pattern

open Unicode

/-- The characters that count as parts of a word. -/
inductive WordKind where
  | unicode
  | ascii
  deriving Repr, DecidableEq

/-- A condition on a position, which looks at the characters on both sides of it. -/
inductive Look where
  | textStart | textEnd
  | lineStart | lineEnd
  /-- A line ends at a carriage return, a line feed, or both together. -/
  | anyLineStart | anyLineEnd
  | word (kind : WordKind) | notWord (kind : WordKind)
  | wordStart (kind : WordKind) | wordEnd (kind : WordKind)
  | wordStartHalf (kind : WordKind) | wordEndHalf (kind : WordKind)
  deriving Repr, DecidableEq

/-- A core pattern. -/
inductive Core where
  | empty
  | set (s : CharSet)
  | look (condition : Look)
  | seq (first second : Core)
  /-- The first branch is preferred. -/
  | alt (first second : Core)
  /-- At least `least` and at most `most` times; a greedy repetition prefers more. -/
  | rep (least : Nat) (most : Option Nat) (greedy : Bool) (body : Core)
  | group (index : Nat) (body : Core)
  deriving Repr, DecidableEq

namespace Core

/-- The pattern takes no character at all, however it is matched. -/
def takesNothing : Core → Bool
  | empty | look _ => true
  | set _ => false
  | seq a b | alt a b => a.takesNothing && b.takesNothing
  | rep _ most _ body => body.takesNothing && most.isSome
  | group _ body => body.takesNothing

/-- The pattern can match without taking a character. -/
def nullable : Core → Bool
  | empty | look _ => true
  | set _ => false
  | seq a b => a.nullable && b.nullable
  | alt a b => a.nullable || b.nullable
  | rep least _ _ body => least == 0 || body.nullable
  | group _ body => body.nullable

/-- The number of the last group, zero when there is none. -/
def lastGroup : Core → Nat
  | empty | look _ | set _ => 0
  | seq a b | alt a b => max a.lastGroup b.lastGroup
  | rep _ _ _ body => body.lastGroup
  | group index body => max index body.lastGroup

/-- A repetition. Repeating what takes nothing more than once is no different from doing so once;
nothing is left of what is repeated no times, and repeating once changes nothing. -/
def repeated (least : Nat) (most : Option Nat) (greedy : Bool) (body : Core) : Core :=
  let least := if body.takesNothing then min least 1 else least
  let most := if body.takesNothing then some ((most.getD 1).min 1) else most
  if most == some 0 then empty
  else if least == 1 && most == some 1 then body
  else rep least most greedy body

/-- Several patterns one behind the other. -/
def sequence : List Core → Core
  | [] => empty
  | [c] => c
  | c :: cs => seq c (sequence cs)

/-- Several branches, the first preferred; no branch at all matches nothing. -/
def branches : List Core → Core
  | [] => set CharSet.empty
  | [c] => c
  | c :: cs => alt c (branches cs)

end Core

end ReleaseGate.Pattern
