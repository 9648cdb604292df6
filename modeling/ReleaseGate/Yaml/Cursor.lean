import ReleaseGate.Yaml.Character
import ReleaseGate.Yaml.Fault

/-!
# Cursors — a place in a YAML text and what is left to read there

A cursor moves past characters that are taken from the front of what is left. It keeps the line and
the column, and the number of characters since the start of the text.
-/

namespace ReleaseGate.Yaml

namespace Mark

/-- The place one column on. -/
def right (m : Mark) : Mark :=
  { m with column := m.column + 1 }

/-- The start of the next line. -/
def nextLine (m : Mark) : Mark :=
  ⟨m.line + 1, 0⟩

/-- The place behind characters. A carriage return and the line feed behind it are one break. -/
def past (m : Mark) : List Char → Mark
  | [] => m
  | '\r' :: '\n' :: rest => m.nextLine.past rest
  | c :: rest => (if isBreak c then m.nextLine else m.right).past rest

end Mark

/-- A place in a text. -/
structure Cursor where
  /-- What is left to read. -/
  rest : List Char
  mark : Mark
  /-- The number of characters before the place. -/
  index : Nat
  deriving Repr, DecidableEq

namespace Cursor

/-- The start of a text. -/
def start (text : List Char) : Cursor :=
  ⟨text, ⟨0, 0⟩, 0⟩

/-- The place behind characters that are next. -/
def past (c : Cursor) (taken : List Char) : Cursor :=
  ⟨c.rest.drop taken.length, c.mark.past taken, c.index + taken.length⟩

/-- The place so many characters on. -/
def skip (c : Cursor) (count : Nat) : Cursor :=
  c.past (c.rest.take count)

/-- Take characters as long as they satisfy a condition. -/
def span (c : Cursor) (p : Char → Bool) : List Char × Cursor :=
  let taken := c.rest.takeWhile p
  (taken, c.past taken)

/-- Skip characters as long as they satisfy a condition. -/
def skipWhile (c : Cursor) (p : Char → Bool) : Cursor :=
  (c.span p).2

/-- Is the given character next? -/
def at? (c : Cursor) (x : Char) : Bool :=
  c.rest.head? == some x

/-- The line break that is next, as it is written; nothing where there is none. -/
def lineBreak (c : Cursor) : List Char :=
  match c.rest with
  | '\r' :: '\n' :: _ => ['\r', '\n']
  | x :: _ => if isBreak x then [x] else []
  | [] => []

/-- Three given characters at the start of a line, with a gap or the end behind them. -/
def atMarker (c : Cursor) (x : Char) : Bool :=
  c.mark.column == 0 &&
    match c.rest with
    | a :: b :: d :: rest => a == x && b == x && d == x && gapOrEnd rest
    | _ => false

/-- Does a line that starts or ends a document begin here? -/
def atDocumentMark (c : Cursor) : Bool :=
  c.atMarker '-' || c.atMarker '.'

/-- The fault of a problem that is seen here, in a construct that began at the given place. -/
def fault (c : Cursor) (problem : Problem) (construct : Construct) (start : Mark) : Fault :=
  .malformed problem c.mark (some (construct, start))

/-- Skip a comment, if one begins here, up to the end of its line. -/
def skipComment (c : Cursor) : Cursor :=
  if c.at? '#' then c.skipWhile fun x => !isBreak x else c

end Cursor

end ReleaseGate.Yaml
