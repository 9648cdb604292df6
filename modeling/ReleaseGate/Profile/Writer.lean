import ReleaseGate.Profile
import ReleaseGate.Yaml.Written

/-!
# Writing profiles — a profile as a YAML text

All members are written, in the order of the form, and the rules as a list that is indented no
further than its name.
-/

namespace ReleaseGate

open Yaml Yaml.Written

/-- A member with a text as its value, on a line that begins with the given characters and is
indented by so many columns. -/
def memberLine (lead : String) (name value : String) : List Char :=
  lead.toList ++ name.toList ++ ':' :: Written.value (lead.length + blockIndent) value

namespace ByManifest

/-- The members of the file names. -/
def yamlLines (b : ByManifest) : List Char :=
  memberLine "  " "cluster_service_version" b.clusterServiceVersion ++
    memberLine "  " "config_map" b.configMap

end ByManifest

namespace Rule

/-- The members of a rule as an entry of a list. -/
def yamlLines (r : Rule) : List Char :=
  memberLine "- " "role" r.role ++ memberLine "  " "component" r.component ++
    memberLine "  " "manifest" r.manifest.key ++ memberLine "  " "pattern" r.pattern

end Rule

namespace Profile

/-- The list of the rules. -/
def rolesYaml : List Rule → List Char
  | [] => " []\n".toList
  | rules => '\n' :: rules.flatMap Rule.yamlLines

/-- A profile as a YAML text. -/
def toYaml (p : Profile) : String :=
  String.ofList (memberLine "" "image_path" p.imagePath ++
    memberLine "" "bundle_component" p.bundleComponent ++
    "manifests:\n".toList ++ p.fileNames.yamlLines ++ "roles:".toList ++ rolesYaml p.roles)

end Profile

end ReleaseGate
