import ReleaseGate.Pattern.Cursor

/-!
# Escapes — what a backslash and the characters behind it stand for

A backslash makes a literal of a character with a meaning, names a control character, a code point,
a class or a boundary. Letters and digits without such a meaning are refused, so that they can be
given one.
-/

namespace ReleaseGate.Pattern

open Reading

/-- A part of a pattern that takes one place, in brackets or outside them. -/
inductive Atom where
  | literal (lit : Literal)
  | dot (span : Span)
  | boundary (span : Span) (kind : Boundary)
  | property (span : Span) (name : PropertyName) (negated : Bool)
  | shorthand (span : Span) (name : Shorthand) (negated : Bool)
  deriving Repr, DecidableEq

namespace Atom

/-- The span of an atom. -/
def span : Atom → Span
  | .literal lit => lit.span
  | .dot s | .boundary s _ | .property s _ _ | .shorthand s _ _ => s

/-- An atom outside brackets. -/
def toTree : Atom → Tree
  | .literal lit => .literal lit
  | .dot s => .dot s
  | .boundary s kind => .boundary s kind
  | .property s name negated => .property s name negated
  | .shorthand s name negated => .shorthand s name negated

end Atom

/-- The characters that have a meaning in a pattern. -/
def isMeta (c : Char) : Bool :=
  ['\\', '.', '+', '*', '?', '(', ')', '|', '[', ']', '\x7b', '\x7d', '^', '$', '#', '&', '-',
    '~'].contains c

/-- The characters that stand for themselves behind a backslash. -/
def isEscapable (c : Char) : Bool :=
  isMeta c || (c.toNat < 0x80 && !c.isAlphanum && c != '<' && c != '>')

/-- The value of a hexadecimal digit. -/
def hexDigit? (c : Char) : Option Nat :=
  if '0' ≤ c && c ≤ '9' then some (c.toNat - '0'.toNat)
  else if 'a' ≤ c && c ≤ 'f' then some (c.toNat - 'a'.toNat + 10)
  else if 'A' ≤ c && c ≤ 'F' then some (c.toNat - 'A'.toNat + 10)
  else none

/-- The character with the given code point, if there is one. -/
def scalar? (n : Nat) : Option Char :=
  if n < 0xD800 || (0xE000 ≤ n && n < 0x110000) then some (Char.ofNat n) else none

/-- Read `count` hexadecimal digits that begin at the cursor; `value` comes before them. -/
def readDigits (value : Nat) : Nat → Reading Nat
  | 0 => return value
  | count + 1 => do
    match ← peek with
    | none => failHere .escapeCut
    | some c =>
      match hexDigit? c with
      | none => failChar .hexDigit
      | some d =>
        let _ ← next
        readDigits (value * 16 + d) count

/-- Read the hexadecimal digits up to a closing brace. The cursor is on the character before them;
`brace` is the offset of the opening brace and `value` the number read so far, if any digit was. -/
def readBraced (brace : Nat) (value : Option Nat) : Nat → Reading (Option Nat)
  | 0 => failFrom .escapeCut brace
  | fuel + 1 => do
    match ← next with
    | none => failFrom .escapeCut brace
    | some '\x7d' => return value
    | some c =>
      match hexDigit? c with
      | none => failChar .hexDigit
      | some d => readBraced brace (some (value.getD 0 * 16 + d)) fuel

/-- Read a code point behind the letter at the cursor, which says how many digits there are; `start`
is the offset of the backslash. -/
def readCodePoint (start : Nat) (letter : Char) : Reading Literal := do
  match ← next with
  | none => failHere .escapeCut
  | some '\x7b' =>
    let brace ← offset
    let value ← readBraced brace none ((← get).rest.length + 1)
    let stop ← offset
    let _ ← next
    match value with
    | none => failFrom .hexEmpty brace
    | some n =>
      match scalar? n with
      | none => fail .hexNoScalar ⟨brace + 1, stop⟩
      | some c => return ⟨(← get).spanFrom start, c, false⟩
  | some _ =>
    let first ← offset
    let count := if letter == 'x' then 2 else if letter == 'u' then 4 else 8
    let n ← readDigits 0 count
    match scalar? n with
    | none => failFrom .hexNoScalar first
    | some c => return ⟨(← get).spanFrom start, c, letter == 'x'⟩

/-- Read the name of a property up to a closing brace. The cursor is on the character before it, and
`name` holds what was read, last first. -/
def readPropertyName (name : List Char) : Nat → Reading (List Char)
  | 0 => failHere .escapeCut
  | fuel + 1 => do
    match ← next with
    | none => failHere .escapeCut
    | some '\x7d' => return name.reverse
    | some c => readPropertyName (c :: name) fuel

/-- Split a text at the first place where the mark stands. -/
def splitAt? (mark : List Char) : List Char → Option (List Char × List Char)
  | [] => none
  | c :: cs =>
    if mark.isPrefixOf (c :: cs) then some ([], (c :: cs).drop mark.length)
    else (splitAt? mark cs).map fun (before, after) => (c :: before, after)

/-- The meaning of a property's name in braces. -/
def propertyNameOf (name : List Char) : PropertyName :=
  let valued (parts : List Char × List Char) (differs : Bool) : PropertyName :=
    .valued (String.ofList parts.1) (String.ofList parts.2) differs
  match splitAt? ['!', '='] name, splitAt? [':'] name, splitAt? ['='] name with
  | some parts, _, _ => valued parts true
  | none, some parts, _ => valued parts false
  | none, none, some parts => valued parts false
  | none, none, none => .named (String.ofList name)

/-- Read a class by property behind the letter at the cursor. -/
def readProperty (start : Nat) (negated : Bool) : Reading Atom := do
  match ← next with
  | none => failHere .escapeCut
  | some '\x7b' =>
    let name ← readPropertyName [] ((← get).rest.length + 1)
    bump
    return .property ((← get).spanFrom start) (propertyNameOf name) negated
  | some '\\' => failChar .propertyMalformed
  | some c =>
    let _ ← next
    return .property ((← get).spanFrom start) (.letter c) negated

/-- A character of a boundary's name. -/
def isBoundaryChar (c : Char) : Bool :=
  c.isAlpha || c == '-'

/-- Read the characters of a boundary's name; `name` holds what was read, last first. -/
def readBoundaryName (name : List Char) : Nat → Reading (List Char)
  | 0 => return name.reverse
  | fuel + 1 => do
    match ← peek with
    | none => return name.reverse
    | some c =>
      if isBoundaryChar c then
        let _ ← next
        readBoundaryName (c :: name) fuel
      else return name.reverse

/-- The boundary of the given name. -/
def boundaryOf? (name : List Char) : Option Boundary :=
  match String.ofList name with
  | "start" => some .wordStart
  | "end" => some .wordEnd
  | "start-half" => some .wordStartHalf
  | "end-half" => some .wordEndHalf
  | _ => none

/-- Read the name in braces that may follow the boundary of a word, which began at `start`. Braces
around anything but a name are left for a repetition. -/
def readBoundaryKind (start : Nat) : Reading Boundary := do
  let saved ← get
  match ← next with
  | none => failFrom .boundaryCut start
  | some c =>
    if !isBoundaryChar c then
      set saved
      return .word
    else
      let first ← offset
      let name ← readBoundaryName [] ((← get).rest.length + 1)
      match ← peek with
      | some '\x7d' =>
        let stop ← offset
        bump
        match boundaryOf? name with
        | some kind => return kind
        | none => fail .boundaryUnknown ⟨first, stop⟩
      | _ => failFrom .boundaryUnclosed saved.offset

/-- The control character that a letter names. -/
def controlOf? (c : Char) : Option Char :=
  match c with
  | 'a' => some '\x07'
  | 'f' => some '\x0c'
  | 't' => some '\t'
  | 'n' => some '\n'
  | 'r' => some '\r'
  | 'v' => some '\x0b'
  | _ => none

/-- The boundary that a letter names. -/
def boundaryLetter? (c : Char) : Option Boundary :=
  match c with
  | 'A' => some .textStart
  | 'z' => some .textEnd
  | 'B' => some .notWord
  | '<' => some .wordStart
  | '>' => some .wordEnd
  | _ => none

/-- The class that a letter names, and whether it is the complement. -/
def shorthandOf? (c : Char) : Option (Shorthand × Bool) :=
  match c with
  | 'd' => some (.digit, false)
  | 's' => some (.space, false)
  | 'w' => some (.word, false)
  | 'D' => some (.digit, true)
  | 'S' => some (.space, true)
  | 'W' => some (.word, true)
  | _ => none

/-- Read what one more letter behind the backslash at `start` stands for, with the cursor behind the
letter. -/
def readEscapedLetter (start : Nat) (c : Char) : Reading Atom := do
  let span := (← get).spanFrom start
  if isEscapable c then return .literal ⟨span, c, false⟩
  else if c == 'b' then
    let kind ← if (← peek) == some '\x7b' then readBoundaryKind start else pure .word
    return .boundary ((← get).spanFrom start) kind
  else match shorthandOf? c, controlOf? c, boundaryLetter? c with
    | some (name, negated), _, _ => return .shorthand span name negated
    | none, some d, _ => return .literal ⟨span, d, false⟩
    | none, none, some kind => return .boundary span kind
    | none, none, none => fail .escapeUnknown span

/-- Read an escape; the cursor is on its backslash. -/
def readEscape : Reading Atom := do
  let start ← offset
  bump
  match ← peek with
  | none => failFrom .escapeCut start
  | some c =>
    if c.isDigit then fail .backreference ⟨start, start + 2⟩
    else if c == 'x' || c == 'u' || c == 'U' then return .literal (← readCodePoint start c)
    else if c == 'p' || c == 'P' then readProperty start (c == 'P')
    else
      bump
      readEscapedLetter start c

end ReleaseGate.Pattern
