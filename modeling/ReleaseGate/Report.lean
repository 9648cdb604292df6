import ReleaseGate.References
import ReleaseGate.Required
import ReleaseGate.Verdict

/-!
# Reports — the text that a validation writes

The report is made of five blocks, each ending in a blank line but the last. Digests stand in
columns of fixed width behind their labels.
-/

namespace ReleaseGate.Report

/-- Lines of text, each with a line feed behind it. -/
def ofLines (lines : List String) : String :=
  String.join (lines.map fun line => line ++ "\n")

/-- A digest, or the word for none. -/
def digestOrNone (digest : Option String) : String :=
  digest.getD "None"

/-- A row of two columns: a label with a colon in `width` characters, and a digest. -/
def row (width : Nat) (label : String) (digest : Option String) : String :=
  "  " ++ Text.padRight width (label ++ ":") ++ digestOrNone digest

/-- The lines that name the snapshot. -/
def headerLines (s : Snapshot) : List String :=
  ["=== Validating Snapshot ===", "Application: " ++ s.application, "Stream: " ++ s.stream.name, ""]

/-- The block that names the snapshot. -/
def header (s : Snapshot) : String :=
  ofLines (headerLines s)

/-- The lines on missing components, with what the snapshot has instead. -/
def missingLines (missing available : List String) : List String :=
  ["ERROR: Missing required components: " ++ Text.joined ", " missing, "",
      "Available components:"] ++
    (if available.isEmpty then ["  (none)"] else []) ++
    available.map fun name => "  - " ++ name

/-- The block on missing components. -/
def missingComponents (missing available : List String) : String :=
  ofLines (missingLines missing available)

/-- The width of the labels of the snapshot's digests. -/
def digestWidth : Nat := 10

/-- The lines of the snapshot's digests. -/
def digestLines (r : Required) : List String :=
  ["Snapshot contains:"] ++
    r.roles.map (fun (role, c) => row digestWidth (Text.capitalised role) c.digest) ++
    [row digestWidth "Bundle" r.bundle.digest, ""]

/-- The block of the snapshot's digests. -/
def digests (r : Required) : String :=
  ofLines (digestLines r)

/-- The lines that name the bundle's image. -/
def targetLines (image : String) : List String :=
  ["Extracting bundle manifests from:", "  " ++ image, ""]

/-- The block that names the bundle's image. -/
def target (image : String) : String :=
  ofLines (targetLines image)

/-- The width of the labels of the bundle's references. -/
def referenceWidth : Nat := 18

/-- The lines of the bundle's references. -/
def referenceLines (refs : References) (rs : Rules) : List String :=
  ["Bundle references:"] ++
    rs.profile.roles.map (fun r =>
      row referenceWidth (r.manifest.label ++ " " ++ r.title) (refs.get? r.role)) ++
    [""]

/-- The block of the bundle's references. -/
def references (refs : References) (rs : Rules) : String :=
  ofLines (referenceLines refs rs)

/-- The manifest that a role is looked for in, in words. -/
def sourceOf (rs : Rules) (role : String) : String :=
  match rs.rule? role with
  | some r => r.manifest.label
  | none => "bundle manifests"

/-- The lines on one role. -/
def outcomeLines (rs : Rules) (o : RoleOutcome) : List String :=
  match o.outcome with
  | .same => ["PASS: " ++ Text.capitalised o.role ++ " matches"]
  | .different =>
    ["FAIL: " ++ Text.capitalised o.role ++ " mismatch",
      "  Bundle wants:  " ++ digestOrNone o.actual,
      "  Snapshot has:  " ++ digestOrNone o.expected]
  | .missing =>
    ["FAIL: Could not extract " ++ o.role ++ " reference from " ++ sourceOf rs o.role]

/-- The advice to release a snapshot. -/
def safe : String := "This snapshot is self-consistent and safe to release."

/-- The advice not to release a snapshot. -/
def notSafe : String := "This snapshot should NOT be released."

/-- The two lines that sum up a verdict. -/
def summaryLines (v : Verdict) : List String :=
  if v.passed then ["PASSED: All " ++ toString v.matching ++ " references match", safe]
  else ["FAILED: " ++ toString v.failing ++ " mismatch(es), " ++ toString v.matching ++
    " match(es)", notSafe]

/-- The lines of the verdict. -/
def resultLines (v : Verdict) (rs : Rules) : List String :=
  ["=== Validation Results ==="] ++ v.outcomes.flatMap (outcomeLines rs) ++ [""] ++ summaryLines v

/-- The block of the verdict. -/
def results (v : Verdict) (rs : Rules) : String :=
  ofLines (resultLines v rs)

end ReleaseGate.Report
