import ReleaseGate.Yaml.Cursor

/-!
# Block scalars — text in indented lines

The header says whether lines are kept or folded, how far the text is indented, and what becomes of
the line breaks at its end. Without a number the indentation is that of the first line that is not
empty, or of the widest empty line before it.
-/

namespace ReleaseGate.Yaml.Block

/-- What becomes of the line breaks at the end. -/
inductive Chomping where
  /-- None stays. -/
  | strip
  /-- The first one stays. -/
  | clip
  /-- All stay. -/
  | keep
  deriving Repr, DecidableEq

/-- The chomping that is next in a header, if any. -/
def chomping? (c : Cursor) : Option Chomping :=
  if c.at? '+' then some .keep else if c.at? '-' then some .strip else none

/-- The digit that is next. -/
def digit? (c : Cursor) : Option Nat :=
  match c.rest with
  | x :: _ => if x.isDigit then some (x.toNat - '0'.toNat) else none
  | [] => none

/-- Read the number of columns in a header, if one is there. -/
def readIncrement (start : Mark) (c : Cursor) : Except Fault (Option Nat × Cursor) :=
  match digit? c with
  | some 0 => .error (c.fault .zeroIndent .blockScalar start)
  | some n => .ok (some n, c.skip 1)
  | none => .ok (none, c)

/-- Read the chomping and the number of columns, in either order. -/
def readHeader (start : Mark) (c : Cursor) : Except Fault (Chomping × Option Nat × Cursor) :=
  match chomping? c with
  | some chomping => do
    let (increment, c) ← readIncrement start (c.skip 1)
    return (chomping, increment, c)
  | none => do
    let (increment, c) ← readIncrement start c
    match increment, chomping? c with
    | some _, some chomping => return (chomping, increment, c.skip 1)
    | _, _ => return (.clip, increment, c)

/-- Lines without text that were read. -/
structure Breaks where
  breaks : List Char
  /-- The widest indentation. -/
  widest : Nat
  rest : Cursor
  deriving Repr

/-- The spaces that are next, up to the indentation if it is known. -/
def indentation (indent : Option Nat) (c : Cursor) : List Char :=
  match indent with
  | none => c.rest.takeWhile (· == ' ')
  | some n => (c.rest.take (n - c.mark.column)).takeWhile (· == ' ')

/-- Is the place before the indentation, as far as it is known? -/
def before (indent : Option Nat) (m : Mark) : Bool :=
  match indent with
  | none => true
  | some n => m.column < n

/-- Read the lines without text, and the indentation of the line with text behind them. -/
def readBreaks (indent : Option Nat) (start : Mark) : Nat → Nat → Cursor → Except Fault Breaks
  | 0, widest, c => .ok ⟨[], widest, c⟩
  | fuel + 1, widest, c =>
    let c := c.past (indentation indent c)
    let widest := max widest c.mark.column
    if before indent c.mark && c.at? '\t' then .error (c.fault .tabIndent .blockScalar start)
    else
      let lineBreak := c.lineBreak
      if lineBreak.isEmpty then .ok ⟨[], widest, c⟩
      else do
        let more ← readBreaks indent start fuel widest (c.past lineBreak)
        return { more with breaks := breaksOf lineBreak ++ more.breaks }

/-- A text that was read, and the line breaks behind it. -/
structure Read where
  text : List Char
  /-- The break at the end of the last line. -/
  ending : List Char
  /-- The breaks of the empty lines behind it. -/
  trailing : List Char
  rest : Cursor
  deriving Repr

/-- The line break between two lines: folded into a space when neither line begins with a blank. -/
def joint (literal : Bool) (ending trailing : List Char) (blankAbove blankBelow : Bool) :
    List Char :=
  if !literal && ending == ['\n'] && !blankAbove && !blankBelow then
    if trailing.isEmpty then [' '] else []
  else ending

/-- Read lines with text; `ending` and `trailing` are the breaks behind the line above, and
`blankAbove` says whether it begins with a blank. -/
def readLines (literal : Bool) (indent : Nat) (start : Mark) :
    Nat → List Char → List Char → Bool → Cursor → Except Fault Read
  | 0, ending, trailing, _, c => .ok ⟨[], ending, trailing, c⟩
  | fuel + 1, ending, trailing, blankAbove, c =>
    match c.rest with
    | [] => .ok ⟨[], ending, trailing, c⟩
    | x :: _ =>
      if c.mark.column != indent then .ok ⟨[], ending, trailing, c⟩
      else do
        let (line, c) := c.span fun x => !isBreak x
        let lineBreak := c.lineBreak
        let empty ← readBreaks (some indent) start (c.rest.length + 1) 0 (c.past lineBreak)
        let more ← readLines literal indent start fuel (breaksOf lineBreak) empty.breaks
          (isBlank x) empty.rest
        let above := joint literal ending trailing blankAbove (isBlank x) ++ trailing
        return { more with text := above ++ line ++ more.text }

/-- What stays of the line breaks at the end of a text. -/
def chomp (chomping : Chomping) (ending trailing : List Char) : List Char :=
  match chomping with
  | .strip => []
  | .clip => ending
  | .keep => ending ++ trailing

/-- Read the block scalar that begins with the indicator that is next. Its lines begin at the margin
or behind it, or in the column that the header gives counted from the block around it. -/
def read (literal : Bool) (margin : Nat) (c : Cursor) : Except Fault (List Char × Cursor) := do
  let start := c.mark
  let (chomping, increment, c) ← readHeader start (c.skip 1)
  let c := (c.skipWhile isBlank).skipComment
  if !breakOrEnd c.rest then throw (c.fault .noLineEnd .blockScalar start)
  let c := c.past c.lineBreak
  let fuel := c.rest.length + 1
  let known := increment.map fun n => margin - 1 + n
  let empty ← readBreaks known start fuel 0 c
  let indent := known.getD (max empty.widest (max margin 1))
  let r ← readLines literal indent start fuel [] empty.breaks false empty.rest
  return (r.text ++ chomp chomping r.ending r.trailing, r.rest)

end ReleaseGate.Yaml.Block
