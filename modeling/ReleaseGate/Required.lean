import ReleaseGate.Failure
import ReleaseGate.Profile
import ReleaseGate.Snapshot

/-!
# Required components — what a snapshot must hold for a profile

Every role needs a component, and so does the bundle. A component is looked up under its key, which
is its name in the profile with the stream behind it. When components are missing, all their keys
are reported: those of the roles in the order of the profile, and the bundle's at the end.
-/

namespace ReleaseGate

/-- The name of a component in the snapshots of a stream. -/
def componentKey (name : String) (stream : Stream) : String :=
  name ++ "-" ++ stream.name

/-- The components of all roles, and of the bundle. -/
structure Required where
  /-- The roles with their components, in the order of the profile. -/
  roles : List (String × Component)
  bundle : Component
  deriving Repr, DecidableEq

namespace Required

/-- The component of a role. -/
def component? (r : Required) (role : String) : Option Component :=
  r.roles.lookup role

/-- The keys that a profile needs, the bundle's at the end. -/
def keys (p : Profile) (stream : Stream) : List String :=
  p.roles.map (fun r => componentKey r.component stream) ++ [componentKey p.bundleComponent stream]

/-- The keys that a profile needs and a snapshot does not have. -/
def missing (s : Snapshot) (p : Profile) (stream : Stream) : List String :=
  (keys p stream).filter fun key => (s.component? key).isNone

/-- The component of a rule's role. -/
def ofRule? (s : Snapshot) (stream : Stream) (r : Rule) : Option (String × Component) :=
  (s.component? (componentKey r.component stream)).map fun c => (r.role, c)

/-- Look up what a profile needs; the missing keys when something is not there. -/
def resolve (s : Snapshot) (stream : Stream) (p : Profile) : Except (List String) Required :=
  match p.roles.mapM (ofRule? s stream), s.component? (componentKey p.bundleComponent stream) with
  | some roles, some bundle => .ok ⟨roles, bundle⟩
  | _, _ => .error (missing s p stream)

/-- How far the lookup of the rules, one after the other, has come. -/
structure Progress where
  /-- The roles whose components were found. -/
  found : List (String × Component)
  /-- The keys that were looked up in vain. -/
  missing : List String

/-- Look up the component of one more rule. -/
def Progress.lookUp (s : Snapshot) (stream : Stream) (so : Progress) (r : Rule) : Progress :=
  let key := componentKey r.component stream
  match s.component? key with
  | some c => { so with found := so.found ++ [(r.role, c)] }
  | none => { so with missing := so.missing ++ [key] }

/-- What a snapshot gives a profile. The rules are looked up one after the other and then the
bundle, and when something is missing, the failure tells all that is missing and what is there. -/
def ofSnapshot (s : Snapshot) (stream : Stream) (p : Profile) : Except Failure Required :=
  let rules := p.roles.foldl (Progress.lookUp s stream) ⟨[], []⟩
  let key := componentKey p.bundleComponent stream
  let missing := if (s.component? key).isNone then rules.missing ++ [key] else rules.missing
  match s.component? key, missing with
  | some bundle, [] => .ok ⟨rules.found, bundle⟩
  | _, _ => .error (.missingComponents missing s.names)

end Required

end ReleaseGate
