import ReleaseGate.Failure
import ReleaseGate.Profile
import ReleaseGate.Yaml.Form

/-!
# Reading profiles — the form of a profile in YAML

A profile is a mapping with the bundle's component, the file names of the two manifests and the list
of rules; the directory of the image may be left out. Members that are not known are passed over.
-/

namespace ReleaseGate

open Yaml

namespace Manifest

/-- The words for the manifests. -/
def words : List (String × Manifest) :=
  [clusterServiceVersion, configMap].map fun m => (m.key, m)

end Manifest

namespace ByManifest

/-- The file names that have been read so far. -/
structure Draft where
  clusterServiceVersion : Option String
  configMap : Option String

/-- One more file name. -/
def Draft.member (name : String) (b : Draft) : Form Draft :=
  if name == "cluster_service_version" then
    .once name b.clusterServiceVersion (.text "a string")
      fun s => { b with clusterServiceVersion := some s }
  else if name == "config_map" then
    .once name b.configMap (.text "a string") fun s => { b with configMap := some s }
  else fun d path p => do return (b, (← Form.ignored d path p).2)

/-- The file names when all members have been read. -/
def Draft.finish (b : Draft) : Except Fault ByManifest := do
  let csv ← Form.required "cluster_service_version" b.clusterServiceVersion
  let configMap ← Form.required "config_map" b.configMap
  return ⟨csv, configMap⟩

/-- The form of the file names. -/
def form : Form ByManifest :=
  .mapping "struct ManifestFiles" ⟨none, none⟩ Draft.member Draft.finish

end ByManifest

namespace Rule

/-- What has been read of a rule so far. -/
structure Draft where
  role : Option String
  component : Option String
  manifest : Option Manifest
  pattern : Option String

/-- One more member of a rule. -/
def Draft.member (name : String) (b : Draft) : Form Draft :=
  if name == "role" then
    .once name b.role (.text "a string") fun s => { b with role := some s }
  else if name == "component" then
    .once name b.component (.text "a string") fun s => { b with component := some s }
  else if name == "manifest" then
    .once name b.manifest (.word Manifest.words) fun m => { b with manifest := some m }
  else if name == "pattern" then
    .once name b.pattern (.text "a string") fun s => { b with pattern := some s }
  else fun d path p => do return (b, (← Form.ignored d path p).2)

/-- The rule when all members have been read. -/
def Draft.finish (b : Draft) : Except Fault Rule := do
  let role ← Form.required "role" b.role
  let component ← Form.required "component" b.component
  let manifest ← Form.required "manifest" b.manifest
  let pattern ← Form.required "pattern" b.pattern
  return ⟨role, component, manifest, pattern⟩

/-- The form of a rule. -/
def form : Form Rule :=
  .mapping "struct RoleRule" ⟨none, none, none, none⟩ Draft.member Draft.finish

end Rule

namespace Profile

/-- What has been read of a profile so far. -/
structure Draft where
  imagePath : Option String
  bundleComponent : Option String
  fileNames : Option ByManifest
  roles : Option (List Rule)

/-- One more member of a profile. -/
def Draft.member (name : String) (b : Draft) : Form Draft :=
  if name == "image_path" then
    .once name b.imagePath (.text "a string") fun s => { b with imagePath := some s }
  else if name == "bundle_component" then
    .once name b.bundleComponent (.text "a string") fun s => { b with bundleComponent := some s }
  else if name == "manifests" then
    .once name b.fileNames ByManifest.form fun f => { b with fileNames := some f }
  else if name == "roles" then
    .once name b.roles (.sequence "a sequence" Rule.form) fun rs => { b with roles := some rs }
  else fun d path p => do return (b, (← Form.ignored d path p).2)

/-- The profile when all members have been read. -/
def Draft.finish (b : Draft) : Except Fault Profile := do
  let bundleComponent ← Form.required "bundle_component" b.bundleComponent
  let fileNames ← Form.required "manifests" b.fileNames
  let roles ← Form.required "roles" b.roles
  return ⟨b.imagePath.getD defaultImagePath, bundleComponent, fileNames, roles⟩

/-- The form of a profile. -/
def form : Form Profile :=
  .mapping "struct ExtractionProfile" ⟨none, none, none, none⟩ Draft.member Draft.finish

/-- The profile that a YAML text holds. -/
def ofYaml (text : String) : Except Failure Profile :=
  (Form.readText form text.toList).mapError .yaml

end Profile

end ReleaseGate
