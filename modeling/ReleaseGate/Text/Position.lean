/-!
# Positions — the line and column of a byte in a text

Lines are counted from one and end at a line feed. The column is the number of bytes between the
start of the line and the position, so a position right after a line feed is in column zero.
-/

namespace ReleaseGate.Text

/-- A line, counted from one, and a number of bytes in it. -/
structure Position where
  line : Nat
  column : Nat
  deriving Repr, DecidableEq

/-- Walk on from the position `p` to the byte `remaining` bytes further. -/
def Position.advance (p : Position) (remaining : Nat) : List Char → Position
  | [] => p
  | c :: rest =>
    let size := c.utf8Size
    if remaining < size then { p with column := p.column + remaining }
    else if c == '\n' then
      Position.advance { line := p.line + 1, column := 0 } (remaining - size) rest
    else Position.advance { p with column := p.column + size } (remaining - size) rest

/-- The position of the byte with the given offset; an offset past the end is the end. -/
def positionOf (text : String) (offset : Nat) : Position :=
  Position.advance { line := 1, column := 0 } offset text.toList

/-- The words `line … column …`. -/
def Position.words (p : Position) : String :=
  "line " ++ toString p.line ++ " column " ++ toString p.column

end ReleaseGate.Text
