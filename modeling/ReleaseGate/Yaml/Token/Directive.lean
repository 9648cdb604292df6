import ReleaseGate.Yaml.Token.Tag

/-!
# Directives — lines before a document that say how to read it

A directive begins with a percent sign at the start of a line. It gives the version of the format or
what a handle of tags stands for.
-/

namespace ReleaseGate.Yaml.Directive

/-- The most digits that a part of a version may have. -/
def longestVersionPart : Nat := 9

/-- Read one part of a version. -/
def readVersionPart (start : Mark) (c : Cursor) : Except Fault (Nat × Cursor) :=
  let (digits, next) := c.span Char.isDigit
  if longestVersionPart < digits.length then
    .error ((c.skip longestVersionPart).fault .longVersion .versionDirective start)
  else if digits.isEmpty then .error (c.fault .noVersion .versionDirective start)
  else .ok (digits.foldl (fun n d => n * 10 + (d.toNat - '0'.toNat)) 0, next)

/-- Read the version that a directive gives. -/
def readVersion (start : Mark) (c : Cursor) : Except Fault (Token × Cursor) := do
  let (major, c) ← readVersionPart start (c.skipWhile isBlank)
  if !c.at? '.' then throw (c.fault .noVersionPart .versionDirective start)
  let (minor, c) ← readVersionPart start (c.skip 1)
  return (.version major minor, c)

/-- Read the handle and the prefix that a directive gives. -/
def readTagPrefix (start : Mark) (c : Cursor) : Except Fault (Token × Cursor) := do
  let (handle, c) ← Tag.readHandle .directive start (c.skipWhile isBlank)
  match c.rest with
  | x :: _ => if !isBlank x then throw (c.fault .noBlank .tagDirective start)
  | [] => throw (c.fault .noBlank .tagDirective start)
  let (content, c) ← Tag.readUri true .directive start [] (c.skipWhile isBlank)
  if !gapOrEnd c.rest then throw (c.fault .noBlankOrLineEnd .tagDirective start)
  return (.tagPrefix (Tag.octets handle) content, c)

/-- Read the directive that is next, with the rest of its line. -/
def read (c : Cursor) : Except Fault (Token × Cursor) := do
  let start := c.mark
  let (name, c) := (c.skip 1).span isNameChar
  if name.isEmpty then throw (c.fault .noDirectiveName .directive start)
  if !gapOrEnd c.rest then throw (c.fault .strayDirectiveCharacter .directive start)
  let (token, c) ←
    if name == "YAML".toList then readVersion start c
    else if name == "TAG".toList then readTagPrefix start c
    else throw (c.fault .unknownDirective .directive start)
  let c := (c.skipWhile isBlank).skipComment
  if !breakOrEnd c.rest then throw (c.fault .noLineEnd .directive start)
  return (token, c.past c.lineBreak)

end ReleaseGate.Yaml.Directive
