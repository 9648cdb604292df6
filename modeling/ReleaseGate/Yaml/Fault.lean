import ReleaseGate.Misfit

/-!
# YAML faults — what can be wrong with a YAML text, and how it is shown

A fault of form names the problem where it was seen and often the construct it was seen in, with the
place where that construct began. A misfit is shown with the path to the value that does not fit.
-/

namespace ReleaseGate.Yaml

/-- A place in a text: its line and column, counted from zero in characters. -/
structure Mark where
  line : Nat
  column : Nat
  deriving Repr, DecidableEq, Inhabited

namespace Mark

/-- Is the place the start of the text? -/
def atStart (m : Mark) : Bool :=
  m.line == 0 && m.column == 0

/-- The place in words, which count from one. -/
def words (m : Mark) : String :=
  "line " ++ toString (m.line + 1) ++ " column " ++ toString (m.column + 1)

/-- The place in words behind ` at `; nothing for the start of the text. -/
def suffix (m : Mark) : String :=
  if m.atStart then "" else " at " ++ m.words

end Mark

/-- What is wrong with the form of a text. -/
inductive Problem where
  | noTokenStart | noColon
  | entryNotAllowed | keyNotAllowed | valueNotAllowed
  | noDirectiveName | strayDirectiveCharacter | unknownDirective | noLineEnd
  | noVersionPart | longVersion | noVersion
  | noBlank | noBlankOrLineEnd
  | noAnchorCharacter
  | noTagClose | noTagMark | noTagUri | noEscapedOctet | wrongLeadingOctet | wrongTrailingOctet
  | zeroIndent | tabIndent
  | documentMark | endOfText | unknownEscape | noHexNumber | wrongEscapeCode
  | tabBreaksIndent | strayColon
  | noDocumentStart | repeatedVersion | incompatibleVersion | repeatedTagHandle
  | undefinedTagHandle | noNodeContent | noDash | noKey | noCommaOrBracket | noCommaOrBrace
  deriving Repr, DecidableEq

/-- The words for a problem. -/
def Problem.words : Problem → String
  | noTokenStart => "found character that cannot start any token"
  | noColon => "could not find expected ':'"
  | entryNotAllowed => "block sequence entries are not allowed in this context"
  | keyNotAllowed => "mapping keys are not allowed in this context"
  | valueNotAllowed => "mapping values are not allowed in this context"
  | noDirectiveName => "could not find expected directive name"
  | strayDirectiveCharacter => "found unexpected non-alphabetical character"
  | unknownDirective => "found unknown directive name"
  | noLineEnd => "did not find expected comment or line break"
  | noVersionPart => "did not find expected digit or '.' character"
  | longVersion => "found extremely long version number"
  | noVersion => "did not find expected version number"
  | noBlank => "did not find expected whitespace"
  | noBlankOrLineEnd => "did not find expected whitespace or line break"
  | noAnchorCharacter => "did not find expected alphabetic or numeric character"
  | noTagClose => "did not find the expected '>'"
  | noTagMark => "did not find expected '!'"
  | noTagUri => "did not find expected tag URI"
  | noEscapedOctet => "did not find URI escaped octet"
  | wrongLeadingOctet => "found an incorrect leading UTF-8 octet"
  | wrongTrailingOctet => "found an incorrect trailing UTF-8 octet"
  | zeroIndent => "found an indentation indicator equal to 0"
  | tabIndent => "found a tab character where an indentation space is expected"
  | documentMark => "found unexpected document indicator"
  | endOfText => "found unexpected end of stream"
  | unknownEscape => "found unknown escape character"
  | noHexNumber => "did not find expected hexdecimal number"
  | wrongEscapeCode => "found invalid Unicode character escape code"
  | tabBreaksIndent => "found a tab character that violates indentation"
  | strayColon => "found unexpected ':'"
  | noDocumentStart => "did not find expected <document start>"
  | repeatedVersion => "found duplicate %YAML directive"
  | incompatibleVersion => "found incompatible YAML document"
  | repeatedTagHandle => "found duplicate %TAG directive"
  | undefinedTagHandle => "found undefined tag handle"
  | noNodeContent => "did not find expected node content"
  | noDash => "did not find expected '-' indicator"
  | noKey => "did not find expected key"
  | noCommaOrBracket => "did not find expected ',' or ']'"
  | noCommaOrBrace => "did not find expected ',' or '\x7d'"

/-- The construct in which a problem was seen. -/
inductive Construct where
  | token | simpleKey | directive | versionDirective | tagDirective
  | anchor | reference | tag | blockScalar | quotedScalar | plainScalar
  | handleOfDirective | handleEndOfDirective | prefixOfDirective | tagUri | quotedEscape
  | node | flowNode | blockNode
  | blockSequence | blockMapping | flowSequence | flowMapping
  deriving Repr, DecidableEq

/-- The words for a construct. -/
def Construct.words : Construct → String
  | token => "while scanning for the next token"
  | simpleKey => "while scanning a simple key"
  | directive => "while scanning a directive"
  | versionDirective => "while scanning a %YAML directive"
  | tagDirective => "while scanning a %TAG directive"
  | anchor => "while scanning an anchor"
  | reference => "while scanning an alias"
  | tag => "while scanning a tag"
  | blockScalar => "while scanning a block scalar"
  | quotedScalar => "while scanning a quoted scalar"
  | plainScalar => "while scanning a plain scalar"
  | handleOfDirective => "while scanning a tag directive"
  | handleEndOfDirective => "while parsing a tag directive"
  | prefixOfDirective => "while parsing a %TAG directive"
  | tagUri => "while parsing a tag"
  | quotedEscape => "while parsing a quoted scalar"
  | node => "while parsing a node"
  | flowNode => "while parsing a flow node"
  | blockNode => "while parsing a block node"
  | blockSequence => "while parsing a block collection"
  | blockMapping => "while parsing a block mapping"
  | flowSequence => "while parsing a flow sequence"
  | flowMapping => "while parsing a flow mapping"

/-- One step on the way from the root of a document to a value. -/
inductive PathStep where
  | item (index : Nat)
  | member (key : String)
  /-- A step to a key or a value that has no name. -/
  | unnamed
  deriving Repr, DecidableEq

/-- The way from the root of a document to a value. -/
abbrev Path := List PathStep

/-- A path in words; none for the root itself. -/
def Path.words (path : Path) : Option String :=
  let dotted (before : Option String) (name : String) : String :=
    match before with
    | none => name
    | some text => text ++ "." ++ name
  path.foldl (fun before step =>
    match step with
    | .item index => some (before.getD "." ++ "[" ++ toString index ++ "]")
    | .member key => some (dotted before key)
    | .unnamed => some (dotted before "?")) none

/-- What can be wrong with a YAML text. -/
inductive Fault where
  /-- The text has not the form of YAML. -/
  | malformed (problem : Problem) (mark : Mark) (construct : Option (Construct × Mark))
  /-- A character that may not stand in a YAML text at all, after so many bytes. -/
  | controlCharacter (offset : Nat)
  /-- A value does not fit; the place is missing when it was not known. -/
  | misfit (reason : Misfit) (place : Option (Mark × Path))
  | tooManyRepetitions
  | unknownAnchor (mark : Mark)
  | moreThanOneDocument
  | noDocument
  deriving Repr, DecidableEq

namespace Fault

/-- The place of a construct, unless it is the start of the text or the place of the problem. -/
private def constructSuffix (mark start : Mark) : String :=
  if start == mark then "" else start.suffix

/-- The message of a fault. -/
def message : Fault → String
  | malformed problem mark none => problem.words ++ mark.suffix
  | malformed problem mark (some (construct, start)) =>
    problem.words ++ mark.suffix ++ ", " ++ construct.words ++ constructSuffix mark start
  | controlCharacter offset =>
    "control characters are not allowed" ++
      (if offset == 0 then "" else " at position " ++ toString offset)
  | misfit reason none => reason.message
  | misfit reason (some (mark, path)) =>
    (match path.words with
      | none => ""
      | some words => words ++ ": ") ++ reason.message ++ mark.suffix
  | tooManyRepetitions => "repetition limit exceeded"
  | unknownAnchor mark => "unknown anchor" ++ mark.suffix
  | moreThanOneDocument =>
    "deserializing from YAML containing more than one document is not supported"
  | noDocument => "EOF while parsing a value"

end Fault

end ReleaseGate.Yaml
