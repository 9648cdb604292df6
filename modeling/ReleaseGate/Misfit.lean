import ReleaseGate.Text.Column
import ReleaseGate.Text.Quoted

/-!
# Misfits — where a document does not have the form it should have

A document is first read as a plain tree of values and then fitted to the form that a snapshot or a
profile has. A misfit says what was found and what was asked for, without saying where.
-/

namespace ReleaseGate

/-- What stands in a document where something else should be. -/
inductive Found where
  /-- No value, under the word that the format has for it. -/
  | nothing (word : String)
  | boolean (value : Bool)
  | integer (value : Int)
  /-- A whole number of more than 64 bits. -/
  | longInteger (value : Int)
  /-- A number that is not whole, as the format writes it. -/
  | float (numeral : String)
  | text (value : String)
  | sequence
  | mapping
  deriving Repr, DecidableEq

namespace Found

/-- The words for what was found. -/
def words : Found → String
  | nothing word => word
  | boolean value => "boolean `" ++ toString value ++ "`"
  | integer value => "integer `" ++ toString value ++ "`"
  | longInteger value =>
    "integer `" ++ toString value ++ "` as " ++ (if value < 0 then "i128" else "u128")
  | float numeral => "floating point `" ++ numeral ++ "`"
  | text value => "string " ++ Text.quoted value
  | sequence => "sequence"
  | mapping => "map"

end Found

/-- Why a part of a document does not fit. -/
inductive Misfit where
  /-- A value of another kind. -/
  | kind (found : Found) (expected : String)
  /-- A value of the right kind that is not allowed. -/
  | value (found : Found) (expected : String)
  /-- A list of the wrong length. -/
  | length (count : Nat) (expected : String)
  /-- A word that is none of the known ones. -/
  | unknownWord (word : String) (known : List String)
  | missingField (field : String)
  | repeatedField (field : String)
  deriving Repr, DecidableEq

namespace Misfit

/-- Words in backquotes, joined by `or`. -/
private def choice (known : List String) : String :=
  Text.joined " or " (known.map fun word => "`" ++ word ++ "`")

/-- The message of a misfit. -/
def message : Misfit → String
  | kind found expected => "invalid type: " ++ found.words ++ ", expected " ++ expected
  | value found expected => "invalid value: " ++ found.words ++ ", expected " ++ expected
  | length count expected => "invalid length " ++ toString count ++ ", expected " ++ expected
  | unknownWord word known => "unknown variant `" ++ word ++ "`, expected " ++ choice known
  | missingField field => "missing field `" ++ field ++ "`"
  | repeatedField field => "duplicate field `" ++ field ++ "`"

end Misfit

end ReleaseGate
