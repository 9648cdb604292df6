import ReleaseGate.Files
import ReleaseGate.Text.Blank
import ReleaseGate.Text.Utf8

/-!
# Input — where the snapshot comes from

The snapshot is taken from the flag, from the environment or from the standard input: the first that
holds anything but white space. Its text is left as it is. The standard input is read only when the
other two hold nothing.
-/

namespace ReleaseGate.Input

/-- A text that holds something, if there is one. -/
def given (text : Option String) : Option String :=
  text.filter fun s => !Text.blank s

/-- Can the snapshot be told without the standard input? -/
def beforeStdin (flag env : Option String) : Option String :=
  (given flag).or (given env)

/-- The snapshot's text. An error tells why the standard input, when it is needed, cannot be read or
is no UTF-8. -/
def snapshot (flag env : Option String) (stdin : Option (Except String (List UInt8))) :
    Except String (Option String) :=
  match beforeStdin flag env, stdin with
  | some text, _ => .ok (some text)
  | none, none => .ok none
  | none, some (.error reason) => .error reason
  | none, some (.ok bytes) =>
    match Text.decode? bytes with
    | none => .error notUtf8Reason
    | some text => .ok (given (some text))

end ReleaseGate.Input
