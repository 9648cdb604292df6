import ReleaseGate.Yaml.Scalar

/-!
# Written scalars — how a text is written as a value in a block

A text is written as it is when that can be read as the same text and as nothing else. Otherwise it
is quoted, and a text with line feeds is written in indented lines where these keep it whole. Only
double quotes can hold every text.
-/

namespace ReleaseGate.Yaml.Written

/-- The ways to write a text. -/
inductive Style where
  | plain
  | single
  | double
  | lines
  deriving Repr, DecidableEq

/-- Indicators that no text without quotes begins with. -/
def leadingIndicators : List Char :=
  "#,[]\x7b\x7d&*!|>'\"%@\x60".toList

/-- Do two characters that satisfy the conditions stand side by side? -/
def adjacent (p q : Char → Bool) : List Char → Bool
  | a :: b :: rest => (p a && q b) || adjacent p q (b :: rest)
  | _ => false

/-- Three given characters at the start. -/
def startsThrice (x : Char) : List Char → Bool
  | a :: b :: c :: _ => a == x && b == x && c == x
  | _ => false

/-- Does a text begin as something else than a text? -/
def beginsOtherwise (text : List Char) : Bool :=
  startsThrice '-' text || startsThrice '.' text ||
    match text with
    | c :: rest => leadingIndicators.contains c || ((c == '-' || c == '?') && gapOrEnd rest)
    | [] => false

/-- Does a text hold a colon with a gap behind it, or the mark of a comment behind a gap? -/
def holdsIndicator (behindGap : Bool) : List Char → Bool
  | [] => false
  | c :: rest =>
    (c == ':' && gapOrEnd rest) || (c == '#' && behindGap) || holdsIndicator (isGap c) rest

/-- Can every character be written as itself, and is no line break preceded by a space? -/
def isClean (text : List Char) : Bool :=
  text.all isPrintable && !adjacent (· == ' ') isBreak text

/-- Can a text be written without quotes? -/
def plainAllowed (text : List Char) : Bool :=
  isClean text && !text.any isBreak && text.head? != some ' ' && text.getLast? != some ' ' &&
    !beginsOtherwise text && !holdsIndicator true text

/-- Can a text be written between single quotes? -/
def singleAllowed (text : List Char) : Bool :=
  isClean text && !adjacent isBreak (· == ' ') text

/-- Can a text be written in indented lines? -/
def linesAllowed (text : List Char) : Bool :=
  isClean text && text.getLast? != some ' '

/-- Would a text without quotes be taken for something else than a text? -/
def isMistakable (text : List Char) : Bool :=
  Scalar.hasLeadingZero text || Scalar.foundPlain text != .text (String.ofList text)

/-- How a text is written. -/
def styleOf (text : List Char) : Style :=
  if text.contains '\n' then if linesAllowed text then .lines else .double
  else if plainAllowed text && !isMistakable text then .plain
  else if singleAllowed text then .single
  else .double

/-- So many spaces. -/
def spaces (n : Nat) : List Char :=
  List.replicate n ' '

/-- A text between single quotes. Behind a line break the text goes on at the indentation. -/
def single (indent : Nat) (behindBreak : Bool) : List Char → List Char
  | [] => if behindBreak then spaces indent else []
  | c :: rest =>
    if isBreak c then c :: single indent true rest
    else
      (if behindBreak then spaces indent else []) ++
        (if c == '\'' then ['\'', '\''] else [c]) ++ single indent false rest

/-- Characters with an escape of their own between double quotes. -/
def shortEscapes : List (Char × Char) :=
  [ ('\x00', '0'), ('\x07', 'a'), ('\x08', 'b'), ('\t', 't'), ('\n', 'n'), ('\x0b', 'v'),
    ('\x0c', 'f'), ('\r', 'r'), ('\x1b', 'e'), ('"', '"'), ('\\', '\\'), ('\u0085', 'N'),
    ('\u2028', 'L'), ('\u2029', 'P') ]

/-- A number in so many hexadecimal digits. -/
def hexDigits (count n : Nat) : List Char :=
  let digits := (Nat.toDigits 16 n).map Char.toUpper
  List.replicate (count - digits.length) '0' ++ digits

/-- The code of a character behind a backslash. -/
def codeEscape (c : Char) : List Char :=
  let n := c.toNat
  if n ≤ 0xFF then 'x' :: hexDigits 2 n
  else if n ≤ 0xFFFF then 'u' :: hexDigits 4 n
  else 'U' :: hexDigits 8 n

/-- A character between double quotes. -/
def doubleChar (c : Char) : List Char :=
  if isPrintable c && !isBreak c && c != '"' && c != '\\' then [c]
  else match shortEscapes.lookup c with
    | some letter => ['\\', letter]
    | none => '\\' :: codeEscape c

/-- Indented lines. -/
def lines (indent : Nat) (behindBreak : Bool) : List Char → List Char
  | [] => []
  | c :: rest =>
    if isBreak c then c :: lines indent true rest
    else (if behindBreak then spaces indent else []) ++ c :: lines indent false rest

/-- The number of columns by which a block is indented. -/
def blockIndent : Nat := 2

/-- The columns of indented lines in their header: needed when the first line cannot show them. -/
def indentHint (text : List Char) : List Char :=
  match text with
  | c :: _ => if c == ' ' || isBreak c then Nat.toDigits 10 blockIndent else []
  | [] => []

/-- What becomes of the line breaks at the end, in the header of indented lines. -/
def chompHint (text : List Char) : List Char :=
  match text.reverse with
  | [] => ['-']
  | c :: before =>
    if !isBreak c then ['-']
    else match before with
      | [] => ['+']
      | d :: _ => if isBreak d then ['+'] else []

/-- A text in indented lines, with their header. -/
def block (indent : Nat) (text : List Char) : List Char :=
  '|' :: (indentHint text ++ chompHint text ++ '\n' :: lines indent true text)

/-- A text in a style, without what ends its last line. -/
def inStyle (indent : Nat) (text : List Char) : Style → List Char
  | .plain => text
  | .single => '\'' :: (single indent false text ++ ['\''])
  | .double => '"' :: (text.flatMap doubleChar ++ ['"'])
  | .lines => block indent text

/-- The value of a member: what is written behind its colon, up to the start of the next line. -/
def value (indent : Nat) (text : String) : List Char :=
  let written := inStyle indent text.toList (styleOf text.toList)
  let ending := if (written.getLast?.map isBreak).getD false then [] else ['\n']
  ' ' :: (written ++ ending)

end ReleaseGate.Yaml.Written
