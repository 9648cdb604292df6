import ReleaseGate.Failure
import ReleaseGate.Pattern
import ReleaseGate.Profile

/-!
# Rules — a profile that has been checked, with its patterns compiled

A profile is checked from its first field to its last rule, and the first fault is reported. Rules
exist only for a profile without fault, so every role has a name of its own and a pattern with
exactly one group. Nothing of this depends on how patterns are compiled: the compiler of patterns is
a parameter, and the one of this library is taken where no other is given.
-/

namespace ReleaseGate

/-- What is wrong with a profile. -/
inductive Profile.Defect where
  | blankImagePath
  | blankBundleComponent
  | badFileName (name : String)
  | noRoles
  | repeatedRole (role : String)
  | blankRole
  | blankComponent (role : String)
  | wrongGroups (role : String)
  deriving Repr, DecidableEq

namespace Profile.Defect

/-- The reason a defect gives. -/
def reason : Defect → String
  | blankImagePath => "image_path must not be empty"
  | blankBundleComponent => "bundle_component must not be empty"
  | badFileName name => "invalid manifest file name: " ++ Text.quoted name
  | noRoles => "at least one role is required"
  | repeatedRole role => "duplicate role: " ++ role
  | blankRole => "role name must not be empty"
  | blankComponent role => "component prefix for " ++ role ++ " must not be empty"
  | wrongGroups role => "pattern for " ++ role ++ " must have exactly one capture group"

/-- A defect as a failure. -/
def failure (d : Defect) : Failure :=
  .profile d.reason

end Profile.Defect

/-- A checked profile, and each of its rules with its compiled pattern. -/
structure Rules where
  profile : Profile
  compiled : List (Rule × Pattern)

namespace Rules

/-- The rule of a role. -/
def rule? (rs : Rules) (role : String) : Option Rule :=
  rs.profile.roles.find? fun r => r.role == role

/-- The pattern of a role. -/
def pattern? (rs : Rules) (role : String) : Option Pattern :=
  (rs.compiled.find? fun c => c.1.role == role).map Prod.snd

end Rules

namespace Profile

/-- A name that is a plain file name: not empty and without separators. -/
def isFileName (name : String) : Bool :=
  !name.isEmpty && name.toList.all fun c => c != '/' && c != '\\'

/-- The compiled pattern of a rule that stands behind rules for the roles `before`. -/
def compileRule (regex : Pattern.Compiler) (before : List String) (r : Rule) :
    Except Failure Pattern :=
  if r.role ∈ before then .error (Defect.repeatedRole r.role).failure
  else if Text.blank r.role then .error Defect.blankRole.failure
  else if Text.blank r.component then .error (Defect.blankComponent r.role).failure
  else match regex r.pattern with
    | .error reason => .error (.invalidPattern r.role reason)
    | .ok p => if p.groups == 1 then .ok p else .error (Defect.wrongGroups r.role).failure

/-- The rules that stand behind rules for the roles `before`, each with its compiled pattern. -/
def compileRules (regex : Pattern.Compiler) (before : List String) :
    List Rule → Except Failure (List (Rule × Pattern))
  | [] => .ok []
  | r :: rest => do
    let p ← compileRule regex before r
    let compiled ← compileRules regex (r.role :: before) rest
    return (r, p) :: compiled

/-- The first defect of a profile outside its rules. -/
def defect? (p : Profile) : Option Defect :=
  if Text.blank p.imagePath then some .blankImagePath
  else if Text.blank p.bundleComponent then some .blankBundleComponent
  else if !isFileName p.fileNames.clusterServiceVersion then
    some (.badFileName p.fileNames.clusterServiceVersion)
  else if !isFileName p.fileNames.configMap then some (.badFileName p.fileNames.configMap)
  else if p.roles.isEmpty then some .noRoles
  else none

/-- Check a profile and compile its patterns. -/
def compile (p : Profile) (regex : Pattern.Compiler := Pattern.compile) : Except Failure Rules :=
  match p.defect? with
  | some d => .error d.failure
  | none => (compileRules regex [] p.roles).map fun compiled => ⟨p, compiled⟩

end Profile

end ReleaseGate
