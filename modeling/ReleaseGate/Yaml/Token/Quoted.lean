import ReleaseGate.Yaml.Cursor

/-!
# Quoted scalars — text between single or double quotes

Gaps with line breaks are folded. Between single quotes a quote is written twice and all else stands
for itself; between double quotes a backslash begins an escape, or hides the line break behind it.
-/

namespace ReleaseGate.Yaml.Quoted

/-- What a backslash and a letter stand for. -/
def escapes : List (Char × Char) :=
  [ ('0', '\x00'), ('a', '\x07'), ('b', '\x08'), ('t', '\t'), ('\t', '\t'), ('n', '\n'),
    ('v', '\x0b'), ('f', '\x0c'), ('r', '\r'), ('e', '\x1b'), (' ', ' '), ('"', '"'), ('/', '/'),
    ('\\', '\\'), ('N', '\u0085'), ('_', '\u00a0'), ('L', '\u2028'), ('P', '\u2029') ]

/-- The number of hexadecimal digits behind a backslash and a letter. -/
def codeLength (c : Char) : Option Nat :=
  if c == 'x' then some 2
  else if c == 'u' then some 4
  else if c == 'U' then some 8
  else none

/-- The number that so many hexadecimal digits begin with. -/
def hexNumber? (value : Nat) : Nat → List Char → Option Nat
  | 0, _ => some value
  | _ + 1, [] => none
  | count + 1, c :: rest => do
    let digit ← hexValue? c
    hexNumber? (value * 16 + digit) count rest

/-- Is the number the code of a character? -/
def isCharCode (n : Nat) : Bool :=
  n < 0xD800 || (0xE000 ≤ n && n ≤ 0x10FFFF)

/-- Read the escape that begins with the backslash that is next. -/
def readEscape (start : Mark) (c : Cursor) : Except Fault (Char × Cursor) :=
  match c.rest with
  | _ :: letter :: rest =>
    match escapes.lookup letter, codeLength letter with
    | some x, _ => .ok (x, c.skip 2)
    | none, some length =>
      let code := c.skip 2
      match hexNumber? 0 length rest with
      | none => .error (code.fault .noHexNumber .quotedEscape start)
      | some n =>
        if isCharCode n then .ok (Char.ofNat n, code.skip length)
        else .error (code.fault .wrongEscapeCode .quotedEscape start)
    | none, none => .error (c.fault .unknownEscape .quotedEscape start)
  | _ => .error (c.fault .unknownEscape .quotedEscape start)

/-- A text that goes on with more. -/
private def followed (text : List Char) (more : Except Fault (List Char × Cursor)) :
    Except Fault (List Char × Cursor) := do
  let (rest, c) ← more
  return (text ++ rest, c)

/-- Read on between single quotes. -/
def readSingle (start : Mark) : Nat → Cursor → Except Fault (List Char × Cursor)
  | 0, c => .error (c.fault .endOfText .quotedScalar start)
  | fuel + 1, c =>
    if c.atDocumentMark then .error (c.fault .documentMark .quotedScalar start)
    else match c.rest with
      | [] => .error (c.fault .endOfText .quotedScalar start)
      | '\'' :: '\'' :: _ => followed ['\''] (readSingle start fuel (c.skip 2))
      | '\'' :: _ => .ok ([], c.skip 1)
      | x :: _ =>
        if isGap x then
          let (gap, next) := c.span isGap
          followed (foldGap gap) (readSingle start fuel next)
        else followed [x] (readSingle start fuel (c.skip 1))

/-- Read on between double quotes. -/
def readDouble (start : Mark) : Nat → Cursor → Except Fault (List Char × Cursor)
  | 0, c => .error (c.fault .endOfText .quotedScalar start)
  | fuel + 1, c =>
    if c.atDocumentMark then .error (c.fault .documentMark .quotedScalar start)
    else match c.rest with
      | [] => .error (c.fault .endOfText .quotedScalar start)
      | '"' :: _ => .ok ([], c.skip 1)
      | '\\' :: rest =>
        if !rest.isEmpty && breakOrEnd rest then
          let behind := c.skip 1
          let (gap, next) := (behind.past behind.lineBreak).span isGap
          followed (breaksOf gap) (readDouble start fuel next)
        else do
          let (x, next) ← readEscape start c
          followed [x] (readDouble start fuel next)
      | x :: _ =>
        if isGap x then
          let (gap, next) := c.span isGap
          followed (foldGap gap) (readDouble start fuel next)
        else followed [x] (readDouble start fuel (c.skip 1))

/-- Read the quoted scalar that begins with the quote that is next. -/
def read (double : Bool) (c : Cursor) : Except Fault (List Char × Cursor) :=
  let fuel := c.rest.length + 1
  if double then readDouble c.mark fuel (c.skip 1) else readSingle c.mark fuel (c.skip 1)

end ReleaseGate.Yaml.Quoted
