import ReleaseGate.Log
import ReleaseGate.Profile.Rules

/-!
# References — the digests that the manifests of a bundle carry

Each rule is applied to the text of the manifest it names. A role has no reference when its pattern
does not match, or matches without its group.
-/

namespace ReleaseGate

/-- The digest found for each role, in the order of the profile. -/
structure References where
  digests : List (String × Option String)
  deriving Repr, DecidableEq

namespace References

/-- No references. -/
def empty : References := ⟨[]⟩

/-- The digest found for a role; none for a role that is not there. -/
def get? (r : References) (role : String) : Option String :=
  (r.digests.lookup role).join

/-- The digest that a rule finds in the manifests. -/
def find (manifests : ByManifest) (c : Rule × Pattern) : Option String :=
  c.2.capture? (manifests.get c.1.manifest)

/-- The digest that the pattern of a role finds in a text. -/
def inText (rs : Rules) (role text : String) : Option String :=
  (rs.pattern? role).bind fun p => p.capture? text

/-- The note on what a rule has found. -/
def remark (r : Rule) (digest : Option String) : Event :=
  ⟨.debug, r.role ++ " reference in " ++ r.manifest.label ++ ": " ++ Text.quotedOption digest⟩

/-- The references that the manifests carry. -/
def ofManifests (rs : Rules) (manifests : ByManifest) : References :=
  ⟨rs.compiled.map fun c => (c.1.role, find manifests c)⟩

/-- The notes on the references that the manifests carry. -/
def remarks (rs : Rules) (manifests : ByManifest) : List Event :=
  rs.compiled.map fun c => remark c.1 (find manifests c)

end References

end ReleaseGate
