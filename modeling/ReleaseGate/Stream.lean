import ReleaseGate.Text.Blank

/-!
# Streams — the two release cadences

The stream of a snapshot is read off its application's name. Minor releases are looked for first,
so a name that carries both marks is a minor release.
-/

namespace ReleaseGate

/-- The cadence a snapshot is released in. -/
inductive Stream where
  /-- Minor releases. -/
  | minor
  /-- Patch releases. -/
  | patch
  deriving Repr, DecidableEq

namespace Stream

/-- The mark of a stream in names. -/
def name : Stream → String
  | minor => "ystream"
  | patch => "zstream"

/-- The stream whose mark occurs in an application's name. -/
def detect (application : String) : Option Stream :=
  if Text.contains application minor.name then some minor
  else if Text.contains application patch.name then some patch
  else none

end Stream

end ReleaseGate
