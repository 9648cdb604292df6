import ReleaseGate.Text.Column

/-!
# Extraction profiles — where the digests of a bundle are found

A profile names the bundle image's component, the directory of the image that holds the manifests,
the two manifests by file name, and for each role the component it stands for and the pattern that
finds its digest. The built-in profile describes the bpfman operator.
-/

namespace ReleaseGate

/-- The manifests that a rule can read from. -/
inductive Manifest where
  | clusterServiceVersion
  | configMap
  deriving Repr, DecidableEq

namespace Manifest

/-- The short name used in reports. -/
def label : Manifest → String
  | clusterServiceVersion => "CSV"
  | configMap => "ConfigMap"

/-- The name used in profiles. -/
def key : Manifest → String
  | clusterServiceVersion => "cluster_service_version"
  | configMap => "config_map"

/-- The manifest with the given name in profiles. -/
def ofKey? (key : String) : Option Manifest :=
  [clusterServiceVersion, configMap].find? fun m => m.key == key

end Manifest

/-- One value for each manifest: its file name, or its text. -/
structure ByManifest where
  clusterServiceVersion : String
  configMap : String
  deriving Repr, DecidableEq

namespace ByManifest

/-- The value for a manifest. -/
def get (b : ByManifest) : Manifest → String
  | .clusterServiceVersion => b.clusterServiceVersion
  | .configMap => b.configMap

end ByManifest

/-- Where the digest of one role is found. -/
structure Rule where
  role : String
  /-- The name of the role's component without the stream. -/
  component : String
  manifest : Manifest
  /-- A pattern whose only group takes the digest. -/
  pattern : String
  deriving Repr, DecidableEq

namespace Rule

/-- The name of the role as it begins a line. -/
def title (r : Rule) : String :=
  Text.capitalised r.role

end Rule

/-- The layout of one operator's bundle. -/
structure Profile where
  /-- The directory of the image that holds the manifests. -/
  imagePath : String
  /-- The name of the bundle's own component without the stream. -/
  bundleComponent : String
  fileNames : ByManifest
  /-- The roles, in the order in which they are reported. -/
  roles : List Rule
  deriving Repr, DecidableEq

namespace Profile

/-- The directory that is read when a profile names none. -/
def defaultImagePath : String := "/manifests/"

/-- The pattern of a digest. -/
def digestPattern : String := "sha256:[a-f0-9]+"

/-- The pattern that finds a digest behind the given text. -/
def behind (text : String) : String :=
  text ++ "@(" ++ digestPattern ++ ")"

/-- The name of the role of the operator. -/
def operator : String := "operator"

/-- The name of the role of the agent. -/
def agent : String := "agent"

/-- The name of the role of the daemon. -/
def daemon : String := "daemon"

/-- The layout of the bpfman operator's bundle. -/
def builtIn : Profile where
  imagePath := defaultImagePath
  bundleComponent := "bpfman-operator-bundle"
  fileNames :=
    { clusterServiceVersion := "bpfman-operator.clusterserviceversion.yaml"
      configMap := "bpfman-config_v1_configmap.yaml" }
  roles :=
    [ { role := operator
        component := "bpfman-operator"
        manifest := .clusterServiceVersion
        pattern := behind "registry\\.redhat\\.io/bpfman/bpfman-rhel9-operator" },
      { role := agent
        component := "bpfman-agent"
        manifest := .configMap
        pattern := behind "bpfman\\.agent\\.image:.*" },
      { role := daemon
        component := "bpfman-daemon"
        manifest := .configMap
        pattern := behind "bpfman\\.image:.*" } ]

/-- Change the first rule of a role; the profile as it is when the role has none. -/
def adjust (p : Profile) (role : String) (change : Rule → Rule) : Profile :=
  let rec go : List Rule → List Rule
    | [] => []
    | r :: rest => if r.role == role then change r :: rest else r :: go rest
  { p with roles := go p.roles }

/-- Does the profile have a rule for a role? -/
def hasRole (p : Profile) (role : String) : Bool :=
  p.roles.any fun r => r.role == role

end Profile

end ReleaseGate
