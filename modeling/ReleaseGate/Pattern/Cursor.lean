import ReleaseGate.Pattern.Tree
import ReleaseGate.Text.Blank
import ReleaseGate.Unicode.Category
import ReleaseGate.Unicode.Property

/-!
# Cursors — how far the reading of a pattern has come

A cursor holds what is left of the pattern, the number of characters before it, and what has to be
remembered about them: whether spacing is free, and which groups have been opened. A step of reading
moves the cursor or complains about a place.
-/

namespace ReleaseGate.Pattern

/-- How far the reading of a pattern has come. -/
structure Cursor where
  rest : List Char
  /-- The number of characters before `rest`. -/
  offset : Nat
  /-- White space and comments are passed over. -/
  freeSpacing : Bool
  /-- The number of capturing groups opened. -/
  groups : Nat
  /-- The names given to groups, and where. -/
  names : List (String × Span)

/-- What is wrong, where, and with what earlier place it clashes. -/
structure Complaint where
  cause : Cause
  span : Span
  earlier : Option Span
  deriving Repr, DecidableEq

/-- A step of reading. -/
abbrev Reading := StateT Cursor (Except Complaint)

/-- The number of characters of white space and comments at the front of a text; `comment` says that
it begins inside a comment. -/
def spacing (comment : Bool) : List Char → Nat
  | [] => 0
  | c :: cs =>
    if comment then spacing (c != '\n') cs + 1
    else if c == '#' then spacing true cs + 1
    else if Text.isBlank c then spacing false cs + 1
    else 0

namespace Cursor

/-- The cursor at the start of a pattern. -/
def start (pattern : List Char) : Cursor :=
  ⟨pattern, 0, false, 0, []⟩

/-- The cursor `n` characters further; it stops at the end of the pattern. -/
def forward (k : Cursor) (n : Nat) : Cursor :=
  { k with rest := k.rest.drop n, offset := k.offset + min n k.rest.length }

/-- The cursor behind white space and comments, if they are passed over. -/
def pastSpacing (k : Cursor) : Cursor :=
  if k.freeSpacing then k.forward (spacing false k.rest) else k

/-- The span of the character at the cursor. -/
def charSpan (k : Cursor) : Span :=
  ⟨k.offset, k.offset + 1⟩

/-- The span from an earlier offset to the cursor. -/
def spanFrom (k : Cursor) (start : Nat) : Span :=
  ⟨start, k.offset⟩

end Cursor

namespace Reading

/-- Complain about a span. -/
def fail {α : Type} (cause : Cause) (span : Span) : Reading α :=
  throw ⟨cause, span, none⟩

/-- Complain about what stands between an offset and the cursor. -/
def failFrom {α : Type} (cause : Cause) (start : Nat) : Reading α := do
  fail cause ((← get).spanFrom start)

/-- Complain about the place of the cursor, which has no width. -/
def failHere {α : Type} (cause : Cause) : Reading α := do
  failFrom cause (← get).offset

/-- Complain about the character at the cursor. -/
def failChar {α : Type} (cause : Cause) : Reading α := do
  fail cause (← get).charSpan

/-- The character at the cursor. -/
def peek : Reading (Option Char) := do
  return (← get).rest.head?

/-- The offset of the cursor. -/
def offset : Reading Nat := do
  return (← get).offset

/-- Move over one character. -/
def bump : Reading Unit :=
  modify fun k => k.forward 1

/-- Move over white space and comments, if they are passed over. -/
def skip : Reading Unit :=
  modify Cursor.pastSpacing

/-- Move over one character and over what may be passed over behind it; the character then at the
cursor. -/
def next : Reading (Option Char) := do
  bump
  skip
  peek

/-- Move over the first of the given texts that follows, if one does. -/
def take (texts : List String) : Reading Bool := do
  let k ← get
  match texts.find? fun text => text.toList.isPrefixOf k.rest with
  | some text =>
    set (k.forward text.toList.length)
    return true
  | none => return false

end Reading

end ReleaseGate.Pattern
