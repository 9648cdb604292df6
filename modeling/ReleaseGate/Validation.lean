import ReleaseGate.Extraction
import ReleaseGate.Report
import ReleaseGate.Snapshot.Reader

/-!
# Validation — from a snapshot and its bundle to a verdict

The snapshot is read, what the profile needs is looked up in it, the references are taken from the
bundle, and both are compared. The report is written line by line on the way, so it shows how far
a run has come; a verdict is written only when there is one.
-/

namespace ReleaseGate.Validation

/-- The components that the profile needs; what is missing is reported before the run ends. -/
def required (s : Snapshot) (p : Profile) : Run Required := do
  match Required.resolve s s.stream p with
  | .ok r => return r
  | .error missing =>
    Run.writeLines (Report.missingLines missing s.names)
    throw (.missingComponents missing s.names)

/-- The two digests of every role. -/
def verdictOf (r : Required) (refs : References) : Verdict :=
  ⟨r.roles.map fun (role, c) => ⟨role, c.digest, refs.get? role⟩⟩

/-- The notes on a verdict. -/
def remarks (v : Verdict) : List Event :=
  v.outcomes.map fun o => ⟨.debug, o.role ++ ": " ++ o.outcome.word⟩

/-- The note at the start of a validation. -/
def opening (s : Snapshot) : Event :=
  ⟨.info, "Validating snapshot " ++ s.application ++ " (" ++ s.stream.name ++ " stream)"⟩

/-- Validate a snapshot against the manifests of its bundle. -/
def validate (raw : String) (extractor : Extractor) (rs : Rules) : Run Verdict := do
  let s ← Run.recorded (Snapshot.read raw)
  Run.note [opening s]
  Run.writeLines (Report.headerLines s)
  let r ← required s rs.profile
  Run.writeLines (Report.digestLines r)
  Run.writeLines (Report.targetLines r.bundle.image)
  Run.flush
  let refs ← Extraction.references extractor rs r.bundle.image
  Run.writeLines (Report.referenceLines refs rs)
  let v := verdictOf r refs
  Run.note (remarks v)
  Run.writeLines (Report.resultLines v rs)
  return v

end ReleaseGate.Validation
