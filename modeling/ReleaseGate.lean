import ReleaseGate.Main
import ReleaseGate.Proofs.Utf8
import ReleaseGate.Proofs.Runs
import ReleaseGate.Proofs.Directories
import ReleaseGate.Proofs.Manifests
import ReleaseGate.Proofs.Marks
import ReleaseGate.Proofs.Items
import ReleaseGate.Proofs.Forms
import ReleaseGate.Proofs.Snapshots
import ReleaseGate.Proofs.Compiled
import ReleaseGate.Proofs.Resolution
import ReleaseGate.Proofs.Course
import ReleaseGate.Proofs.Truncation
import ReleaseGate.Proofs.Stages
import ReleaseGate.Proofs.Verdicts
import ReleaseGate.Proofs.Closure
import ReleaseGate.Proofs.Paths
import ReleaseGate.Proofs.Leftmost
import ReleaseGate.Proofs.Spans
import ReleaseGate.Proofs.Passages
import ReleaseGate.Proofs.Octets
import ReleaseGate.Proofs.Codes
import ReleaseGate.Proofs.Sizes
import ReleaseGate.Proofs.Preference
import ReleaseGate.Proofs.Picks
import ReleaseGate.Proofs.Indifference
import ReleaseGate.Proofs.Roles
import ReleaseGate.Proofs.BuiltIn
import ReleaseGate.Proofs.KeyLines
import ReleaseGate.Proofs.WellFormed
import ReleaseGate.Proofs.Lines
import ReleaseGate.Proofs.Advice
import ReleaseGate.Proofs.Rendered
import ReleaseGate.Proofs.SnapshotTexts
import ReleaseGate.Proofs.Replies
import ReleaseGate.Proofs.Printed
import ReleaseGate.Proofs.NamedImages
import ReleaseGate.Proofs.Faults
import ReleaseGate.Proofs.Repairs
import ReleaseGate.Proofs.Routes
import ReleaseGate.Proofs.Entries
import ReleaseGate.Proofs.Traces
import ReleaseGate.Proofs.Results
import ReleaseGate.Proofs.Columns
import ReleaseGate.Proofs.ComponentKeys
import ReleaseGate.Proofs.Replacement
import ReleaseGate.Proofs.Trimmed
import ReleaseGate.Proofs.Fates
import ReleaseGate.Proofs.Sources
import ReleaseGate.Proofs.DigestForms
import ReleaseGate.Proofs.Remarks
