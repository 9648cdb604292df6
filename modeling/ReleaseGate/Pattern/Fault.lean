/-!
# Pattern faults — what can be wrong with a pattern, and how it is shown

A fault names a cause and a span of the pattern. The message repeats the pattern with carets under
the span; a pattern of several lines is shown between two rules with its lines numbered. Two spans
are marked when the fault is a clash with something written earlier.
-/

namespace ReleaseGate.Pattern

/-- A stretch of a pattern, as character offsets; the end is not part of it. -/
structure Span where
  start : Nat
  stop : Nat
  deriving Repr, DecidableEq, Inhabited

/-- What is wrong with a pattern. -/
inductive Cause where
  | classEscape | classRange | classRangeBound | classUnclosed
  | decimalTooLarge
  | hexEmpty | hexNoScalar | hexDigit
  | escapeCut | escapeUnknown
  | flagDangling | flagTwice | flagNegatedTwice | flagCut | flagUnknown
  | nameTwice | nameEmpty | nameCharacter | nameUnclosed
  | groupUnclosed | groupUnopened
  | tooNested (limit : Nat)
  | countOrder | countEmpty | countUnclosed | nothingToRepeat
  | boundaryUnclosed | boundaryUnknown | boundaryCut
  | propertyMalformed | backreference | lookAround
  | unicodeForbidden | notUtf8 | propertyUnknown | propertyValueUnknown
  deriving Repr, DecidableEq

/-- The words for a cause. -/
def Cause.message : Cause → String
  | classEscape => "invalid escape sequence found in character class"
  | classRange => "invalid character class range, the start must be <= the end"
  | classRangeBound => "invalid range boundary, must be a literal"
  | classUnclosed => "unclosed character class"
  | decimalTooLarge => "decimal literal invalid"
  | hexEmpty => "hexadecimal literal empty"
  | hexNoScalar => "hexadecimal literal is not a Unicode scalar value"
  | hexDigit => "invalid hexadecimal digit"
  | escapeCut => "incomplete escape sequence, reached end of pattern prematurely"
  | escapeUnknown => "unrecognized escape sequence"
  | flagDangling => "dangling flag negation operator"
  | flagTwice => "duplicate flag"
  | flagNegatedTwice => "flag negation operator repeated"
  | flagCut => "expected flag but got end of regex"
  | flagUnknown => "unrecognized flag"
  | nameTwice => "duplicate capture group name"
  | nameEmpty => "empty capture group name"
  | nameCharacter => "invalid capture group character"
  | nameUnclosed => "unclosed capture group name"
  | groupUnclosed => "unclosed group"
  | groupUnopened => "unopened group"
  | tooNested limit =>
    "exceed the maximum number of nested parentheses/brackets (" ++ toString limit ++ ")"
  | countOrder => "invalid repetition count range, the start must be <= the end"
  | countEmpty => "repetition quantifier expects a valid decimal"
  | countUnclosed => "unclosed counted repetition"
  | nothingToRepeat => "repetition operator missing expression"
  | boundaryUnclosed =>
    "special word boundary assertion is either unclosed or contains an invalid character"
  | boundaryUnknown =>
    "unrecognized special word boundary assertion, valid choices are: start, end, start-half or " ++
      "end-half"
  | boundaryCut =>
    "found either the beginning of a special word boundary or a bounded repetition on a \\b with " ++
      "an opening brace, but no closing brace"
  | propertyMalformed => "invalid Unicode character class"
  | backreference => "backreferences are not supported"
  | lookAround => "look-around, including look-ahead and look-behind, is not supported"
  | unicodeForbidden => "Unicode not allowed here"
  | notUtf8 => "pattern can match invalid UTF-8"
  | propertyUnknown => "Unicode property not found"
  | propertyValueUnknown => "Unicode property value not found"

/-- A fault of a pattern. -/
inductive Fault where
  /-- Something wrong at a place, and the earlier place it clashes with, if any. -/
  | at (pattern : String) (cause : Cause) (span : Span) (earlier : Option Span)
  /-- The pattern needs more memory than `limit` bytes. -/
  | tooLarge (limit : Nat)
  deriving Repr, DecidableEq

/-- A place in a pattern: its line and its column, both counted from zero in characters. -/
structure Place where
  line : Nat
  column : Nat
  deriving Repr, DecidableEq

/-- The place of the character with the given offset, walking on from `p`. -/
def Place.advance (p : Place) : Nat → List Char → Place
  | 0, _ => p
  | _ + 1, [] => p
  | n + 1, c :: rest =>
    if c == '\n' then Place.advance ⟨p.line + 1, 0⟩ n rest
    else Place.advance ⟨p.line, p.column + 1⟩ n rest

/-- The place of an offset. -/
def placeOf (pattern : List Char) (offset : Nat) : Place :=
  Place.advance ⟨0, 0⟩ offset pattern

/-- Break a text at its line feeds; `line` is the current line, last character first. -/
private def breakLines (line : List Char) : List Char → List (List Char)
  | [] => [line.reverse]
  | c :: rest => if c == '\n' then line.reverse :: breakLines [] rest else breakLines (c :: line) rest

/-- A line without the carriage return before its line feed. -/
private def dropReturn (line : List Char) : List Char :=
  if line.getLast? == some '\r' then line.dropLast else line

/-- The lines of a text. A line ends at a line feed, a carriage return before it is dropped, and
nothing after the last line feed is no line. -/
def linesOf (text : List Char) : List (List Char) :=
  let pieces := breakLines [] text
  let ended := pieces.dropLast.map dropReturn
  match pieces.getLast? with
  | none | some [] => ended
  | some last => ended ++ [last]

private def times (n : Nat) (c : Char) : String :=
  String.ofList (List.replicate n c)

/-- Carets under stretches of one line, each given by its first column and its width. -/
private def carets (column : Nat) : List (Nat × Nat) → String
  | [] => ""
  | (start, width) :: rest =>
    let width := max 1 width
    times (start - column) ' ' ++ times width '^' ++ carets (max column start + width) rest

/-- The stretches to mark: the places where they begin and end, in order. -/
private def marks (pattern : List Char) (spans : List Span) : List (Place × Place) :=
  (spans.mergeSort fun a b => a.start < b.start || (a.start == b.start && a.stop ≤ b.stop)).map
    fun s => (placeOf pattern s.start, placeOf pattern s.stop)

/-- The pattern with its lines and the carets under them; `width` is that of the line numbers, and
zero for a pattern of one line. -/
private def annotated (width : Nat) (here : List (Place × Place)) :
    Nat → List (List Char) → String
  | _, [] => ""
  | n, line :: rest =>
    let number := toString (n + 1)
    let label := if width == 0 then "    " else times (width - number.length) ' ' ++ number ++ ": "
    let indent := if width == 0 then 4 else width + 2
    let stretches := (here.filter fun m => m.1.line == n).map fun m =>
      (m.1.column, m.2.column - m.1.column)
    let notes := if stretches.isEmpty then "" else times indent ' ' ++ carets 0 stretches ++ "\n"
    label ++ String.ofList line ++ "\n" ++ notes ++ annotated width here (n + 1) rest

/-- The note for a stretch over several lines. -/
private def note (m : Place × Place) : String :=
  "on line " ++ toString (m.1.line + 1) ++ " (column " ++ toString (m.1.column + 1) ++
    ") through line " ++ toString (m.2.line + 1) ++ " (column " ++ toString m.2.column ++ ")"

/-- The message of a fault at a place. -/
private def shown (pattern : String) (cause : Cause) (spans : List Span) : String :=
  let text := pattern.toList
  let lines := linesOf text
  let count := if text.getLast? == some '\n' then lines.length + 1 else lines.length
  let width := if count ≤ 1 then 0 else (toString count).length
  let all := marks text spans
  let body := annotated width (all.filter fun m => m.1.line == m.2.line) 0 lines
  let wide := all.filter fun m => m.1.line != m.2.line
  if text.contains '\n' then
    let rule := times 79 '~' ++ "\n"
    let notes := if wide.isEmpty then "" else "\n".intercalate (wide.map note) ++ "\n"
    "regex parse error:\n" ++ rule ++ body ++ rule ++ notes ++ "error: " ++ cause.message
  else "regex parse error:\n" ++ body ++ "error: " ++ cause.message

/-- The message of a fault. -/
def Fault.message : Fault → String
  | .at pattern cause span earlier => shown pattern cause (span :: earlier.toList)
  | .tooLarge limit => "Compiled regex exceeds size limit of " ++ toString limit ++ " bytes."

end ReleaseGate.Pattern
