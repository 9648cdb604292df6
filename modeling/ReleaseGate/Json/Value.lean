import ReleaseGate.Number.Shortest
import ReleaseGate.Text.Position

/-!
# JSON values and what can be wrong with a JSON text

An object holds its members in ascending order of their keys and each key once. A whole number that
fits in 64 bits stays whole; every other number is a double.
-/

namespace ReleaseGate

/-- A JSON value. -/
inductive Json where
  | null
  | bool (value : Bool)
  /-- A whole number from zero on, below `2 ^ 64`. -/
  | natural (value : Nat)
  /-- A negative whole number, given by its magnitude of at most `2 ^ 63`. -/
  | negative (magnitude : Nat)
  | float (value : Binary64)
  | string (value : String)
  | array (items : List Json)
  /-- Members with ascending keys. -/
  | object (members : List (String × Json))
  deriving Inhabited

namespace Json

/-- Put a member into an ascending list of members, in place of one that has its key. -/
def put (key : String) (value : Json) : List (String × Json) → List (String × Json)
  | [] => [(key, value)]
  | (key', value') :: rest =>
    if key < key' then (key, value) :: (key', value') :: rest
    else if key = key' then (key, value) :: rest
    else (key', value') :: put key value rest

/-- The object with the given members in the order written: a repeated key keeps its last value. -/
def ofMembers (members : List (String × Json)) : Json :=
  .object (members.foldl (fun acc m => put m.1 m.2 acc) [])

/-- What is wrong at one place of a JSON text. -/
inductive Cause where
  | endInList | endInObject | endInString | endInValue
  | expectedColon | expectedListEnd | expectedObjectEnd | expectedWord | expectedValue
  | invalidEscape | invalidNumber | numberOutOfRange | controlCharacter
  | keyNotString | loneSurrogate | cutSurrogate
  | trailingComma | trailingCharacters | tooDeep
  deriving Repr, DecidableEq

/-- The words for a cause. -/
def Cause.message : Cause → String
  | endInList => "EOF while parsing a list"
  | endInObject => "EOF while parsing an object"
  | endInString => "EOF while parsing a string"
  | endInValue => "EOF while parsing a value"
  | expectedColon => "expected `:`"
  | expectedListEnd => "expected `,` or `]`"
  | expectedObjectEnd => "expected `,` or `\x7d`"
  | expectedWord => "expected ident"
  | expectedValue => "expected value"
  | invalidEscape => "invalid escape"
  | invalidNumber => "invalid number"
  | numberOutOfRange => "number out of range"
  | controlCharacter => "control character (\\u0000-\\u001F) found while parsing a string"
  | keyNotString => "key must be a string"
  | loneSurrogate => "lone leading surrogate in hex escape"
  | cutSurrogate => "unexpected end of hex escape"
  | trailingComma => "trailing comma"
  | trailingCharacters => "trailing characters"
  | tooDeep => "recursion limit exceeded"

/-- A fault in a JSON text: what is wrong, and where. -/
structure Fault where
  cause : Cause
  position : Text.Position
  deriving Repr, DecidableEq

/-- The message of a fault. -/
def Fault.message (f : Fault) : String :=
  f.cause.message ++ " at " ++ f.position.words

end Json

end ReleaseGate
