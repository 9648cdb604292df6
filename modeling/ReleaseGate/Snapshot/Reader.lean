import ReleaseGate.Failure
import ReleaseGate.Log
import ReleaseGate.Snapshot
import ReleaseGate.Snapshot.Document

/-!
# Reading snapshots — from a text to a snapshot, with what is worth a note on the way

A text that is not JSON and a document of the wrong form are told apart. Then the stream is looked
for, and at last the components are taken one by one: each needs a name and an image, and no two
have the same name. A digest of an unexpected form earns a warning and an image without a digest a
note; neither changes the snapshot.
-/

namespace ReleaseGate.Snapshot

/-- Why the entries of a document do not make components. -/
inductive Defect where
  | noName (index : Nat)
  | noImage (name : String)
  | repeatedName (name : String)
  deriving Repr, DecidableEq

/-- The reason a defect gives. -/
def Defect.reason : Defect → String
  | noName index => "component #" ++ toString index ++ " has no name"
  | noImage name => "component " ++ name ++ " has no containerImage"
  | repeatedName name => "duplicate component name: " ++ name

/-- The note that a component earns, if any. -/
def remark (c : Component) : List Event :=
  match c.digest with
  | some digest =>
    if Digest.isSha256 digest then []
    else [⟨.warn, "Component " ++ c.name ++ " carries an unexpected digest: " ++ digest⟩]
  | none => [⟨.debug, "Component " ++ c.name ++ " is not pinned by digest"⟩]

/-- The component that an entry makes behind components with the names `seen`. -/
def componentOf (seen : List String) (index : Nat) (entry : Entry) : Except Defect Component :=
  match entry.name, entry.image with
  | none, _ => .error (.noName index)
  | some name, none => .error (.noImage name)
  | some name, some image => if name ∈ seen then .error (.repeatedName name) else .ok ⟨name, image⟩

/-- The components that the entries make, and the notes they earn; `index` is the place of the first
entry and `seen` holds the names before it. -/
def componentsOf (seen : List String) (index : Nat) :
    List Entry → List Event × Except Defect (List Component)
  | [] => ([], .ok [])
  | entry :: rest =>
    match componentOf seen index entry with
    | .error defect => ([], .error defect)
    | .ok c =>
      let (events, result) := componentsOf (c.name :: seen) (index + 1) rest
      (remark c ++ events, result.map (c :: ·))

/-- The closing note on a snapshot that was read. -/
def summary (s : Snapshot) : Event :=
  ⟨.debug, "Parsed snapshot " ++ s.application ++ " (" ++ s.stream.name ++ ") with " ++
    toString s.components.length ++ " components"⟩

/-- The snapshot of a document, and the notes made on the way. -/
def ofDocument (doc : Document) : List Event × Except Failure Snapshot :=
  match Stream.detect doc.application with
  | none => ([], .error (.unknownStream doc.application))
  | some stream =>
    match componentsOf [] 0 doc.entries with
    | (events, .error defect) => (events, .error (.malformedSnapshot defect.reason))
    | (events, .ok components) =>
      let s : Snapshot := ⟨doc.application, stream, components⟩
      (events ++ [summary s], .ok s)

/-- The snapshot that a text describes, and the notes made on the way. -/
def read (raw : String) : List Event × Except Failure Snapshot :=
  match Json.read raw with
  | .error fault => ([], .error (.json fault))
  | .ok value =>
    match Document.ofJson value with
    | .error misfit => ([], .error (.malformedSnapshot misfit.message))
    | .ok doc => ofDocument doc

end ReleaseGate.Snapshot
