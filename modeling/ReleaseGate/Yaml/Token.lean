import ReleaseGate.Yaml.Cursor

/-!
# YAML tokens — indicators, scalars and the marks of nesting

Blocks are marked by their indentation, so tokens stand for their starts and ends as brackets do
for those of flow collections.
-/

namespace ReleaseGate.Yaml

/-- A tag as it is written: a handle that stands for a prefix, and what follows it. A tag without a
handle is complete. -/
structure TagName where
  handle : List UInt8
  suffix : List UInt8
  deriving Repr, DecidableEq

/-- One token. -/
inductive Token where
  | version (major minor : Nat)
  | tagPrefix (handle content : List UInt8)
  | documentStart
  | documentEnd
  | blockSequence
  | blockMapping
  | blockEnd
  | flowSequence
  | flowSequenceEnd
  | flowMapping
  | flowMappingEnd
  /-- A hyphen that begins an entry. -/
  | entry
  /-- A comma. -/
  | comma
  | key
  | value
  | anchor (name : List Char)
  | reference (name : List Char)
  | tag (name : TagName)
  /-- A scalar's text, and whether it is written without quotes or block indicator. -/
  | scalar (text : List Char) (plain : Bool)
  deriving Repr, DecidableEq

/-- Tokens in order with their places, and what comes behind the last one. -/
inductive Tokens where
  | cons (token : Token) (mark : Mark) (rest : Tokens)
  /-- The text ends. -/
  | finished (mark : Mark)
  /-- What comes next is no token. -/
  | broken (fault : Fault)
  deriving Repr, DecidableEq

namespace Tokens

/-- The place of what comes next. -/
def mark : Tokens → Mark
  | cons _ m _ => m
  | finished m => m
  | broken _ => default

/-- Does a token that satisfies a condition come next? -/
def next (p : Token → Bool) : Tokens → Except Fault Bool
  | cons t _ _ => .ok (p t)
  | finished _ => .ok false
  | broken f => .error f

/-- Put tokens in front; the one nearest to what follows is the first of the list. -/
def behind : List (Token × Mark) → Tokens → Tokens
  | [], rest => rest
  | (t, m) :: before, rest => behind before (cons t m rest)

/-- The number of tokens. -/
def count : Tokens → Nat
  | cons _ _ rest => rest.count + 1
  | _ => 0

end Tokens

end ReleaseGate.Yaml
