import ReleaseGate.Json.Reader
import ReleaseGate.Misfit

/-!
# Snapshot documents — the form of the JSON that a snapshot is read from

A document is an object with an `application` and `components`, each of which may be left out; a
component has a `name` and a `containerImage`, each of which may be left out or null. Unknown fields
are passed over. Both may also be written as arrays of their fields in this order. The fields of an
object are fitted in the order of their names, so of two misfits the one in the earlier name counts.
-/

namespace ReleaseGate.Snapshot

/-- A component as the document gives it. -/
structure Entry where
  name : Option String
  image : Option String
  deriving Repr, DecidableEq

/-- A snapshot as the document gives it. -/
structure Document where
  application : String
  entries : List Entry
  deriving Repr, DecidableEq

/-- What a JSON value is, in the words of a misfit. -/
def found : Json → Found
  | .null => .nothing "null"
  | .bool b => .boolean b
  | .natural n => .integer n
  | .negative n => .integer (-(n : Int))
  | .float x => .float x.scientific
  | .string s => .text s
  | .array _ => .sequence
  | .object _ => .mapping

/-- A value that must be a text. -/
def text : Json → Except Misfit String
  | .string s => .ok s
  | v => .error (.kind (found v) "a string")

/-- A value that must be a text or null. -/
def optionalText : Json → Except Misfit (Option String)
  | .null => .ok none
  | v => (text v).map some

/-- The field of an object, fitted; a field that is left out has the value `absent`. -/
def field {α : Type} (members : List (String × Json)) (name : String) (absent : α)
    (fit : Json → Except Misfit α) : Except Misfit α :=
  match members.lookup name with
  | none => .ok absent
  | some v => fit v

/-- The misfit of an array with more items than there are fields. -/
def tooMany (items : List Json) : Misfit :=
  .length items.length "fewer elements in array"

/-- The misfit of an array with too few items for a component. -/
def tooFew (items : List Json) : Misfit :=
  .length items.length "struct ComponentDocument with 2 elements"

/-- Fit a value to the form of a component. -/
def entryOf : Json → Except Misfit Entry
  | .object members => do
    let image ← field members "containerImage" none optionalText
    let name ← field members "name" none optionalText
    return ⟨name, image⟩
  | .array [] => .error (tooFew [])
  | .array (first :: rest) => do
    let name ← optionalText first
    match rest with
    | [] => .error (tooFew [first])
    | second :: more =>
      let image ← optionalText second
      if more.isEmpty then return ⟨name, image⟩ else .error (tooMany (first :: rest))
  | v => .error (.kind (found v) "struct ComponentDocument")

/-- A value that must be a list of components. -/
def entriesOf : Json → Except Misfit (List Entry)
  | .array items => items.mapM entryOf
  | v => .error (.kind (found v) "a sequence")

/-- Fit a value to the form of a snapshot. -/
def Document.ofJson : Json → Except Misfit Document
  | .object members => do
    let application ← field members "application" "" text
    let entries ← field members "components" [] entriesOf
    return ⟨application, entries⟩
  | .array [] => .ok ⟨"", []⟩
  | .array (first :: rest) => do
    let application ← text first
    match rest with
    | [] => return ⟨application, []⟩
    | second :: more =>
      let entries ← entriesOf second
      if more.isEmpty then return ⟨application, entries⟩ else .error (tooMany (first :: rest))
  | v => .error (.kind (found v) "struct SnapshotDocument")

end ReleaseGate.Snapshot
