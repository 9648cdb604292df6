import ReleaseGate.References
import ReleaseGate.Run

/-!
# Extraction — the two manifests out of a bundle's image

The extractor copies a directory of the image into a fresh temporary directory. The two manifests
are read from there as text, and then the directory is removed, whatever has come of it.

Of the file system only the place for temporary directories is here. A profile that compiles has no
name that leads anywhere else: its names hold no slash. One that was not compiled may name a file by
an absolute path, or by one that goes up from the temporary directory. Such a file is left out, and
counts as one that is not there.
-/

namespace ReleaseGate

/-- What an extractor comes to: the entries it has made below its destination, whether it succeeded,
and what it has noted. -/
structure Extraction where
  made : Directory
  failure : Option Failure
  events : List Event

/-- A tool that copies a directory out of an image. -/
abbrev Extractor := (image source destination : String) → Extraction

namespace Extraction

/-- The name of the directory that the extractor copies into. -/
def manifestsName : String := "manifests"

/-- The stem of the names of temporary directories. -/
def temporaryStem : String := "snapcheck-bundle-"

/-- Make a fresh temporary directory; the answer is its name. -/
def makeTemporary : Run String := do
  let w ← get
  match w.temporary.entries with
  | none =>
    throw (.io (FileFault.notFound.words ++ " at path " ++ Text.quoted w.temporary.shownAs))
  | some entries =>
    let name := Directory.freshName temporaryStem entries
    let fresh := Node.directory [(manifestsName, .directory [])]
    let entries := Directory.put name fresh entries
    set { w with temporary := { w.temporary with entries := some entries } }
    return name

/-- Remove a temporary directory. -/
def removeTemporary (name : String) (w : World) : World :=
  { w with
    temporary := { w.temporary with entries := w.temporary.entries.map (Directory.remove name) } }

/-- Call the extractor, and keep what it has made in the temporary directory. -/
def call (extractor : Extractor) (name image source : String) : Run Unit := do
  let w ← get
  let e := extractor image source (Path.join w.temporary.shownAs manifestsName)
  let made := Node.directory [(manifestsName, .directory e.made)]
  set { w with
    temporary := { w.temporary with entries := w.temporary.entries.map (Directory.put name made) }
    events := w.events ++ e.events
    calls := w.calls ++ [Call.mk image source] }
  match e.failure with
  | some failure => throw failure
  | none => return ()

/-- The node under a file name in the manifests directory of a temporary directory. What a name that
leads out of the temporary directory would find elsewhere is left out: it finds nothing. -/
def manifestAt (entries : Directory) (name fileName : String) : Except FileFault Node :=
  if Path.isAbsolute fileName || !Path.staysBelow 1 (Path.names fileName) then .error .notFound
  else do
    let directory ← ((entries.lookup name).map Except.ok).getD (.error .notFound)
    directory.at? (manifestsName ++ "/" ++ fileName)

/-- The text of a file that was found. -/
def textOf (shown : String) : Except FileFault Node → Except Failure String
  | .ok (.file bytes) =>
    match Text.decode? bytes with
    | some text => .ok text
    | none => .error (.io notUtf8Reason)
  | _ => .error (.manifestNotFound shown)

/-- Read a manifest. -/
def readManifest (name fileName : String) : Run String := do
  let temporary := (← get).temporary
  let shown := Path.join (Path.join temporary.shownAs manifestsName) fileName
  ofExcept (textOf shown (manifestAt (temporary.entries.getD []) name fileName))

/-- Extract and read the manifests in a temporary directory that is there. -/
def readManifests (extractor : Extractor) (p : Profile) (image name : String) :
    Run ByManifest := do
  Run.note [⟨.info, "Extracting " ++ p.imagePath ++ " from " ++ image⟩]
  call extractor name image p.imagePath
  let csv ← readManifest name p.fileNames.clusterServiceVersion
  let configMap ← readManifest name p.fileNames.configMap
  Run.note [⟨.debug, "Removing " ++ Text.quoted (← get).temporary.shownAs⟩]
  return ⟨csv, configMap⟩

/-- The manifests of a bundle's image. The temporary directory is gone afterwards. -/
def manifests (extractor : Extractor) (p : Profile) (image : String) : Run ByManifest := do
  let name ← makeTemporary
  ExceptT.mk fun w =>
    let (result, w) := (readManifests extractor p image name).run w
    (result, removeTemporary name w)

/-- The references of a bundle's image. -/
def references (extractor : Extractor) (rs : Rules) (image : String) : Run References := do
  let manifests ← manifests extractor rs.profile image
  Run.note (References.remarks rs manifests)
  return References.ofManifests rs manifests

end Extraction

end ReleaseGate
