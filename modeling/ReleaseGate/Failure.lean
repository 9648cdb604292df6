import ReleaseGate.Json.Value
import ReleaseGate.Yaml.Fault

/-!
# Failures — why a validation cannot reach a verdict

Every failure carries what is needed to name its cause. Missing components are a finding about the
snapshot and count as a failed validation; all others abort the run.
-/

namespace ReleaseGate

/-- The exit status of a run that found the snapshot consistent with its bundle. -/
def exitPassed : Nat := 0

/-- The exit status of a run that found the snapshot inconsistent or incomplete. -/
def exitFailed : Nat := 1

/-- The exit status of a run that was aborted. -/
def exitAborted : Nat := 2

/-- Why a validation cannot reach a verdict. -/
inductive Failure where
  /-- Reading or writing failed. -/
  | io (reason : String)
  | json (fault : Json.Fault)
  /-- The snapshot is well-formed JSON of the wrong form. -/
  | malformedSnapshot (reason : String)
  /-- The application's name has the mark of no stream. -/
  | unknownStream (application : String)
  | missingComponents (missing available : List String)
  /-- The tool could not copy the manifests out of the image. -/
  | extraction (image reason : String)
  | manifestNotFound (path : String)
  | profile (reason : String)
  /-- The pattern of a role cannot be compiled. -/
  | invalidPattern (role reason : String)
  | yaml (fault : Yaml.Fault)
  deriving Repr, DecidableEq

namespace Failure

/-- The message of a failure. -/
def message : Failure → String
  | io reason => "IO error: " ++ reason
  | json fault => "Invalid JSON: " ++ fault.message
  | malformedSnapshot reason => "Malformed snapshot: " ++ reason
  | unknownStream application => "Cannot detect stream from application name: " ++ application
  | missingComponents missing _ => "Missing required components: " ++ Text.joined ", " missing
  | extraction image reason => "Failed to extract bundle " ++ image ++ ": " ++ reason
  | manifestNotFound path => "Manifest not found after extraction: " ++ path
  | profile reason => "Invalid extraction profile: " ++ reason
  | invalidPattern role reason => "Invalid pattern for " ++ role ++ ": " ++ reason
  | yaml fault => "YAML error: " ++ fault.message

/-- The exit status of a run that ends in this failure. -/
def exitStatus : Failure → Nat
  | missingComponents _ _ => exitFailed
  | _ => exitAborted

end Failure

end ReleaseGate
