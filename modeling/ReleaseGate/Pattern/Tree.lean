import ReleaseGate.Pattern.Fault

/-!
# Pattern trees — a pattern as it is written

The tree keeps every part of a pattern with the span it takes, so that what is found wrong later can
still be shown in place. What the parts mean depends on the flags in force and is worked out in a
second step.
-/

namespace ReleaseGate.Pattern

/-- A switch that a pattern can set. -/
inductive Flag where
  | ignoreCase
  | multiLine
  | dotAll
  | swapGreed
  | unicode
  | crlf
  | freeSpacing
  deriving Repr, DecidableEq

/-- What a flag group says, item by item: a flag, or the hyphen that turns what follows off. -/
inductive FlagItem where
  | flag (f : Flag)
  | negation
  deriving Repr, DecidableEq

/-- A single character in a pattern; `byte` marks one written as two hexadecimal digits. -/
structure Literal where
  span : Span
  char : Char
  byte : Bool
  deriving Repr, DecidableEq

/-- A position that a pattern can ask for. -/
inductive Boundary where
  | lineStart | lineEnd | textStart | textEnd
  | word | notWord | wordStart | wordEnd | wordStartHalf | wordEndHalf
  deriving Repr, DecidableEq

/-- The classes with a one-letter escape. -/
inductive Shorthand where
  | digit | space | word
  deriving Repr, DecidableEq

/-- The name of a class of characters by property. -/
inductive PropertyName where
  /-- One letter behind `\p`. -/
  | letter (c : Char)
  /-- A name in braces. -/
  | named (name : String)
  /-- A property and its value in braces; `differs` when they were joined by `!=`. -/
  | valued (property value : String) (differs : Bool)
  deriving Repr, DecidableEq

/-- The classes with a name between colons. -/
inductive PosixName where
  | alnum | alpha | ascii | blank | cntrl | digit | graph | lower | print | punct | space | upper
  | word | xdigit
  deriving Repr, DecidableEq

/-- The two-sided operators inside brackets. -/
inductive SetOp where
  | intersection | difference | symmetricDifference
  deriving Repr, DecidableEq

mutual

/-- What stands inside brackets. -/
inductive SetTree where
  | empty (span : Span)
  | literal (lit : Literal)
  | range (span : Span) (lo hi : Literal)
  | posix (span : Span) (name : PosixName) (negated : Bool)
  | property (span : Span) (name : PropertyName) (negated : Bool)
  | shorthand (span : Span) (name : Shorthand) (negated : Bool)
  | bracketed (b : Bracketed)
  | union (span : Span) (items : List SetTree)
  | op (span : Span) (op : SetOp) (lhs rhs : SetTree)

/-- A class in brackets. -/
inductive Bracketed where
  | mk (span : Span) (negated : Bool) (set : SetTree)

end

/-- How a group is opened. -/
inductive GroupKind where
  /-- A group that captures, with its number. -/
  | capture (index : Nat)
  /-- A group that only sets flags. -/
  | plain (items : List FlagItem)
  deriving Repr, DecidableEq

/-- A part of a pattern. -/
inductive Tree where
  | empty (span : Span)
  | flags (span : Span) (items : List FlagItem)
  | literal (lit : Literal)
  | dot (span : Span)
  | boundary (span : Span) (kind : Boundary)
  | property (span : Span) (name : PropertyName) (negated : Bool)
  | shorthand (span : Span) (name : Shorthand) (negated : Bool)
  | bracketed (b : Bracketed)
  /-- A part repeated at least `least` and at most `most` times. -/
  | repetition (span : Span) (least : Nat) (most : Option Nat) (greedy : Bool) (body : Tree)
  | group (span : Span) (kind : GroupKind) (body : Tree)
  | alternation (span : Span) (parts : List Tree)
  | sequence (span : Span) (parts : List Tree)

namespace Bracketed

/-- The span of a class in brackets. -/
def span : Bracketed → Span
  | .mk s _ _ => s

end Bracketed

namespace SetTree

/-- The span of a part of a class. -/
def span : SetTree → Span
  | .empty s | .range s _ _ | .posix s _ _ | .property s _ _ | .shorthand s _ _ | .union s _
  | .op s _ _ _ => s
  | .literal lit => lit.span
  | .bracketed b => b.span

end SetTree

namespace Tree

/-- The span of a part of a pattern. -/
def span : Tree → Span
  | .empty s | .flags s _ | .dot s | .boundary s _ | .property s _ _ | .shorthand s _ _
  | .repetition s _ _ _ _ | .group s _ _ | .alternation s _ | .sequence s _ => s
  | .literal lit => lit.span
  | .bracketed b => b.span

end Tree

end ReleaseGate.Pattern
