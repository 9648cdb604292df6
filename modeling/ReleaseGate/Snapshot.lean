import ReleaseGate.Digest
import ReleaseGate.Stream

/-!
# Snapshots — which image was built for each component of a release

A snapshot lists the components of a candidate release in the order of its document. The digest of a
component is read off its image reference and never stored apart from it.
-/

namespace ReleaseGate

/-- A component built for the release. -/
structure Component where
  name : String
  image : String
  deriving Repr, DecidableEq

namespace Component

/-- The digest that pins the component's image, if one does. -/
def digest (c : Component) : Option String :=
  Digest.ofImage c.image

end Component

/-- The record of what was built for one application. -/
structure Snapshot where
  application : String
  stream : Stream
  components : List Component
  deriving Repr, DecidableEq

namespace Snapshot

/-- The component of the given name. -/
def component? (s : Snapshot) (name : String) : Option Component :=
  s.components.find? fun c => c.name == name

/-- The names of all components, in the order of the snapshot. -/
def names (s : Snapshot) : List String :=
  s.components.map Component.name

end Snapshot

end ReleaseGate
