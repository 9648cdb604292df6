import ReleaseGate.Failure

/-!
# Verdicts — whether the digests of a snapshot are those of its bundle

The digest of a role's component is compared with the one that the bundle refers to, as text. The
verdict passes when every role matches.
-/

namespace ReleaseGate

/-- How the two digests of a role compare. -/
inductive Outcome where
  | same
  | different
  /-- The bundle carries no digest for the role. -/
  | missing
  deriving Repr, DecidableEq

namespace Outcome

/-- The word for an outcome. -/
def word : Outcome → String
  | same => "MATCH"
  | different => "MISMATCH"
  | missing => "MISSING"

/-- Compare the digest in the snapshot with the one in the bundle. -/
def ofDigests (expected actual : Option String) : Outcome :=
  match actual with
  | none => missing
  | some _ => if expected = actual then same else different

end Outcome

/-- The two digests of a role. -/
structure RoleOutcome where
  role : String
  /-- The digest in the snapshot. -/
  expected : Option String
  /-- The digest in the bundle. -/
  actual : Option String
  deriving Repr, DecidableEq

namespace RoleOutcome

/-- How the digests compare. -/
def outcome (o : RoleOutcome) : Outcome :=
  Outcome.ofDigests o.expected o.actual

/-- Do the digests match? -/
def passed (o : RoleOutcome) : Bool :=
  o.outcome == .same

end RoleOutcome

/-- The outcomes of all roles. -/
structure Verdict where
  outcomes : List RoleOutcome
  deriving Repr, DecidableEq

namespace Verdict

/-- Does every role match? -/
def passed (v : Verdict) : Bool :=
  v.outcomes.all RoleOutcome.passed

/-- The number of roles that match. -/
def matching (v : Verdict) : Nat :=
  (v.outcomes.filter RoleOutcome.passed).length

/-- The number of roles that do not match. -/
def failing (v : Verdict) : Nat :=
  v.outcomes.length - v.matching

/-- The exit status of a run that reaches the verdict. -/
def exitStatus (v : Verdict) : Nat :=
  if v.passed then exitPassed else exitFailed

end Verdict

end ReleaseGate
