import ReleaseGate.Profile.Writer
import ReleaseGate.Proofs.Yaml.Allowed
import ReleaseGate.Proofs.Yaml.Members

/-!
# Listings — the tokens of a printed profile

Every line of a printed profile is a member, the start of a nested block or an entry. Line by line
the reader gets the tokens of a mapping with two texts, a mapping of two texts and a list of mappings
of four texts, whatever the texts are and however they had to be written.
-/

namespace ReleaseGate

open Yaml Yaml.Layout
open Yaml.Written (spaces)

/-- The tokens of a member with a text. -/
def memberTokens (name value : String) : List Token :=
  [.key, .scalar name.toList true, .value, Written.token value]

/-- The tokens of the file names. -/
def ByManifest.tokens (b : ByManifest) : List Token :=
  memberTokens "cluster_service_version" b.clusterServiceVersion ++
    memberTokens "config_map" b.configMap

/-- The tokens of a rule as an entry of a list. -/
def Rule.tokens (r : Rule) : List Token :=
  [.entry, .blockMapping] ++ memberTokens "role" r.role ++ memberTokens "component" r.component ++
    memberTokens "manifest" r.manifest.key ++ memberTokens "pattern" r.pattern ++ [.blockEnd]

namespace Profile

/-- The tokens of the list of the rules. -/
def rolesTokens : List Rule → List Token
  | [] => [.flowSequence, .flowSequenceEnd]
  | rules => rules.flatMap Rule.tokens

/-- The tokens of the lines of a profile. -/
def lineTokens (p : Profile) : List Token :=
  [.blockMapping] ++ memberTokens "image_path" p.imagePath ++
    memberTokens "bundle_component" p.bundleComponent ++
    [.key, .scalar "manifests".toList true, .value, .blockMapping] ++ p.fileNames.tokens ++
    [.blockEnd, .key, .scalar "roles".toList true, .value] ++ rolesTokens p.roles

/-- The tokens of a profile. -/
def tokens (p : Profile) : List Token :=
  p.lineTokens ++ [.blockEnd]

end Profile

/-! ## Lines -/

/-- A line of a printed profile with what follows it. -/
theorem memberLine_append (lead name value : String) (more : List Char) :
    memberLine lead name value ++ more = lead.toList ++ (name.toList ++ ':' ::
      (Written.value (lead.length + Written.blockIndent) value ++ more)) := by
  rw [memberLine, List.append_assoc, List.append_assoc]
  rfl

/-- The place at the start of a line of the outermost mapping. -/
def atLine (kinds : List Token) (rest : List Char) : Place :=
  ⟨kinds, 1, [0], true, 0, rest⟩

/-- The place at a line of a mapping inside, behind its indentation. -/
def inBlock (kinds : List Token) (rest : List Char) : Place :=
  ⟨kinds, 3, [1, 0], true, 2, rest⟩

section

variable {kinds : List Token} {name value : String} {more : List Char}

/-- A member of the outermost mapping. -/
theorem reads_line (hname : isMemberName name.toList = true)
    (hmore : ∀ x ∈ more.head?, beginsToken x = true) :
    Reads (atLine kinds (memberLine "" name value ++ more))
      (atLine ((memberTokens name value).reverse ++ kinds) more) :=
  reads_member (p := atLine kinds (memberLine "" name value ++ more)) (k := 0) rfl hname
    (Nat.le_refl 1) (Nat.le_refl 0) hmore (memberLine_append "" name value more)

/-- The first member of the outermost mapping. -/
theorem reads_first_line (hname : isMemberName name.toList = true)
    (hmore : ∀ x ∈ more.head?, beginsToken x = true) :
    Reads ⟨[], 0, [], true, 0, memberLine "" name value ++ more⟩
      (atLine ((memberTokens name value).reverse ++ [.blockMapping]) more) :=
  reads_member (p := ⟨[], 0, [], true, 0, memberLine "" name value ++ more⟩) (k := 0) rfl hname
    (Nat.zero_le 1) (Nat.le_refl 0) hmore (memberLine_append "" name value more)

/-- The name of a mapping inside. -/
theorem reads_section (hname : isMemberName name.toList = true)
    (hmore : ∀ x ∈ more.head?, beginsToken x = true) :
    Reads (atLine kinds (name.toList ++ ':' :: '\n' :: (spaces 2 ++ more)))
      ⟨.value :: .scalar name.toList true :: .key :: kinds, 1, [0], true, 2, more⟩ :=
  reads_nested (p := atLine kinds _) (k := 2) rfl hname (Nat.le_refl 1) hmore rfl

/-- The name of a list with entries. -/
theorem reads_list (hname : isMemberName name.toList = true)
    (hmore : ∀ x ∈ more.head?, beginsToken x = true) :
    Reads (atLine kinds (name.toList ++ ':' :: '\n' :: more))
      (atLine (.value :: .scalar name.toList true :: .key :: kinds) more) :=
  reads_nested (p := atLine kinds _) (k := 0) rfl hname (Nat.le_refl 1) hmore rfl

/-- The name of a list without entries, at the end of the text. -/
theorem reads_empty_list (hname : isMemberName name.toList = true) :
    Reads (atLine kinds (name.toList ++ ':' :: [' ', '[', ']', '\n']))
      (atLine ([.flowSequenceEnd, .flowSequence, .value, .scalar name.toList true, .key] ++ kinds)
        []) :=
  reads_empty (p := atLine kinds _) rfl hname (Nat.le_refl 1) rfl

/-- A member of a mapping inside, with another one behind it. -/
theorem reads_inner (hname : isMemberName name.toList = true)
    (hmore : ∀ x ∈ more.head?, beginsToken x = true) :
    Reads (inBlock kinds (name.toList ++ ':' :: (Written.value 4 value ++ (spaces 2 ++ more))))
      (inBlock ((memberTokens name value).reverse ++ kinds) more) :=
  reads_member (p := inBlock kinds _) (k := 2) rfl hname (Nat.le_refl 3) (Nat.le_refl 2) hmore rfl

/-- The last member of a mapping inside. -/
theorem reads_last (hname : isMemberName name.toList = true)
    (hmore : ∀ x ∈ more.head?, beginsToken x = true) :
    Reads (inBlock kinds (name.toList ++ ':' :: (Written.value 4 value ++ more)))
      (atLine (.blockEnd :: ((memberTokens name value).reverse ++ kinds)) more) :=
  reads_member (p := inBlock kinds _) (k := 0) rfl hname (Nat.le_refl 3) (Nat.zero_le 2) hmore rfl

/-- The first member of a mapping inside. -/
theorem reads_first (hname : isMemberName name.toList = true)
    (hmore : ∀ x ∈ more.head?, beginsToken x = true) :
    Reads ⟨kinds, 1, [0], true, 2,
        name.toList ++ ':' :: (Written.value 4 value ++ (spaces 2 ++ more))⟩
      (inBlock ((memberTokens name value).reverse ++ .blockMapping :: kinds) more) :=
  reads_member (p := ⟨kinds, 1, [0], true, 2, _⟩) (k := 2) rfl hname
    (show 1 ≤ 3 by decide) (Nat.le_refl 2) hmore rfl

end

/-! ## Rules -/

theorem beginsToken_entry (r : Rule) (more : List Char) :
    ∀ x ∈ (r.yamlLines ++ more).head?, beginsToken x = true :=
  forall_head rfl

variable {kinds : List Token} {more : List Char}

/-- A rule is read as an entry with a mapping of four texts. -/
theorem reads_rule (r : Rule) (hmore : ∀ x ∈ more.head?, beginsToken x = true) :
    Reads (atLine kinds (r.yamlLines ++ more)) (atLine (r.tokens.reverse ++ kinds) more) := by
  have hwritten : r.yamlLines ++ more = '-' :: ' ' :: ("role".toList ++ ':' ::
      (Written.value 4 r.role ++ (spaces 2 ++ ("component".toList ++ ':' ::
        (Written.value 4 r.component ++ (spaces 2 ++ ("manifest".toList ++ ':' ::
          (Written.value 4 r.manifest.key ++ (spaces 2 ++ ("pattern".toList ++ ':' ::
            (Written.value 4 r.pattern ++ more))))))))))) := by
    rw [Rule.yamlLines, List.append_assoc, List.append_assoc, List.append_assoc, memberLine_append,
      memberLine_append, memberLine_append, memberLine_append]
    rfl
  have hrole : isMemberName "role".toList = true := rfl
  have hcomponent : isMemberName "component".toList = true := rfl
  have hmanifest : isMemberName "manifest".toList = true := rfl
  have hpattern : isMemberName "pattern".toList = true := rfl
  rw [hwritten]
  refine (reads_entry (p := atLine kinds _) rfl Nat.zero_lt_one
    (beginsToken_name hrole _) rfl).trans ?_
  refine (reads_first hrole (beginsToken_name hcomponent _)).trans ?_
  refine (reads_inner hcomponent (beginsToken_name hmanifest _)).trans ?_
  refine (reads_inner hmanifest (beginsToken_name hpattern _)).trans ?_
  exact reads_last hpattern hmore

/-- Rules are read one after the other, up to the end of the text. -/
theorem reads_rules (rules : List Rule) :
    ∀ kinds : List Token, Reads (atLine kinds (rules.flatMap Rule.yamlLines))
      (atLine ((rules.flatMap Rule.tokens).reverse ++ kinds) []) := by
  induction rules with
  | nil => exact fun kinds => Reads.refl _
  | cons r rules ih =>
      intro kinds
      have hmore : ∀ x ∈ (rules.flatMap Rule.yamlLines).head?, beginsToken x = true := by
        cases rules with
        | nil => exact nofun
        | cons r' rules => exact beginsToken_entry r' _
      rw [List.flatMap_cons, List.flatMap_cons, List.reverse_append, List.append_assoc]
      exact (reads_rule r hmore).trans (ih _)

/-! ## Profiles -/

/-- The list of the rules is read with its name, up to the end of the text. -/
theorem reads_roles (rules : List Rule) (kinds : List Token) :
    Reads (atLine kinds ("roles".toList ++ ':' :: Profile.rolesYaml rules))
      (atLine ((Profile.rolesTokens rules).reverse ++ .value :: .scalar "roles".toList true :: .key
        :: kinds) []) := by
  have hname : isMemberName "roles".toList = true := rfl
  cases rules with
  | nil => exact reads_empty_list hname
  | cons r rules =>
      refine (reads_list hname (beginsToken_entry r _)).trans ?_
      exact reads_rules (r :: rules) _

/-- The file names are read as a mapping of two texts. -/
theorem reads_fileNames (b : ByManifest) (hmore : ∀ x ∈ more.head?, beginsToken x = true) :
    Reads (atLine kinds ("manifests".toList ++ ':' :: '\n' :: (b.yamlLines ++ more)))
      (atLine (.blockEnd :: (b.tokens.reverse ++ .blockMapping :: .value
        :: .scalar "manifests".toList true :: .key :: kinds)) more) := by
  have hwritten : b.yamlLines ++ more = spaces 2 ++ ("cluster_service_version".toList ++ ':' ::
      (Written.value 4 b.clusterServiceVersion ++ (spaces 2 ++ ("config_map".toList ++ ':' ::
        (Written.value 4 b.configMap ++ more))))) := by
    rw [ByManifest.yamlLines, List.append_assoc, memberLine_append, memberLine_append]
    rfl
  have hmanifests : isMemberName "manifests".toList = true := rfl
  have hcsv : isMemberName "cluster_service_version".toList = true := rfl
  have hconfig : isMemberName "config_map".toList = true := rfl
  rw [hwritten, ByManifest.tokens, List.reverse_append, List.append_assoc]
  refine (reads_section hmanifests (beginsToken_name hcsv _)).trans ?_
  refine (reads_first hcsv (beginsToken_name hconfig _)).trans ?_
  exact reads_last hconfig hmore

/-- A printed profile line by line. -/
theorem toYaml_eq (p : Profile) : p.toYaml.toList = memberLine "" "image_path" p.imagePath ++
    (memberLine "" "bundle_component" p.bundleComponent ++ ("manifests".toList ++ ':' :: '\n' ::
      (p.fileNames.yamlLines ++ ("roles".toList ++ ':' :: Profile.rolesYaml p.roles)))) := by
  have hmanifests : "manifests:\n".toList = "manifests".toList ++ [':', '\n'] := rfl
  have hroles : "roles:".toList = "roles".toList ++ [':'] := rfl
  rw [Profile.toYaml, String.toList_ofList, hmanifests, hroles]
  simp only [List.append_assoc, List.cons_append, List.nil_append]

/-- A printed profile is read line by line, up to the end of the text. -/
theorem reads_profile (p : Profile) :
    Reads ⟨[], 0, [], true, 0, p.toYaml.toList⟩ (atLine p.lineTokens.reverse []) := by
  have himage : isMemberName "image_path".toList = true := rfl
  have hbundle : isMemberName "bundle_component".toList = true := rfl
  have hmanifests : isMemberName "manifests".toList = true := rfl
  have hroles : isMemberName "roles".toList = true := rfl
  have hbehindImage : ∀ x ∈ (memberLine "" "bundle_component" p.bundleComponent ++
      ("manifests".toList ++ ':' :: '\n' :: (p.fileNames.yamlLines ++
        ("roles".toList ++ ':' :: Profile.rolesYaml p.roles)))).head?, beginsToken x = true := by
    rw [memberLine_append]
    exact beginsToken_name hbundle _
  have hlines : p.lineTokens.reverse = (Profile.rolesTokens p.roles).reverse ++ (.value
      :: .scalar "roles".toList true :: .key :: .blockEnd :: (p.fileNames.tokens.reverse ++
        (.blockMapping :: .value :: .scalar "manifests".toList true :: .key ::
          ((memberTokens "bundle_component" p.bundleComponent).reverse ++
            ((memberTokens "image_path" p.imagePath).reverse ++ [.blockMapping]))))) := by
    simp only [Profile.lineTokens, List.reverse_append, List.append_assoc]
    rfl
  rw [toYaml_eq, hlines]
  refine Reads.trans (reads_first_line himage hbehindImage) ?_
  refine Reads.trans (reads_line hbundle (beginsToken_name hmanifests _)) ?_
  refine Reads.trans (reads_fileNames p.fileNames (beginsToken_name hroles _)) ?_
  exact reads_roles p.roles _

theorem isAllowed_memberLine {lead name : String}
    (hlead : ∀ x ∈ lead.toList ++ name.toList, isAllowed x = true) (value : String) :
    ∀ x ∈ memberLine lead name value, isAllowed x = true :=
  List.forall_mem_append.mpr ⟨hlead, List.forall_mem_cons.mpr ⟨rfl, Written.isAllowed_value _ value⟩⟩

theorem isAllowed_rule (r : Rule) : ∀ x ∈ r.yamlLines, isAllowed x = true := by
  refine List.forall_mem_append.mpr ⟨List.forall_mem_append.mpr ⟨List.forall_mem_append.mpr ⟨?_, ?_⟩,
    ?_⟩, ?_⟩
  all_goals exact isAllowed_memberLine (List.all_eq_true.mp rfl) _

theorem isAllowed_rolesYaml (rules : List Rule) :
    ∀ x ∈ Profile.rolesYaml rules, isAllowed x = true := by
  cases rules with
  | nil => exact List.all_eq_true.mp rfl
  | cons r rules =>
      refine List.forall_mem_cons.mpr ⟨rfl, fun x hx => ?_⟩
      obtain ⟨r', -, hr'⟩ := List.mem_flatMap.mp hx
      exact isAllowed_rule r' x hr'

/-- A printed profile holds no character that may not stand in a text. -/
theorem isAllowed_toYaml (p : Profile) : ∀ x ∈ p.toYaml.toList, isAllowed x = true := by
  rw [toYaml_eq, ByManifest.yamlLines]
  refine List.forall_mem_append.mpr ⟨isAllowed_memberLine (List.all_eq_true.mp rfl) _, ?_⟩
  refine List.forall_mem_append.mpr ⟨isAllowed_memberLine (List.all_eq_true.mp rfl) _, ?_⟩
  refine List.forall_mem_append.mpr ⟨List.all_eq_true.mp rfl, List.forall_mem_cons.mpr ⟨rfl,
    List.forall_mem_cons.mpr ⟨rfl, ?_⟩⟩⟩
  refine List.forall_mem_append.mpr ⟨List.forall_mem_append.mpr
    ⟨isAllowed_memberLine (List.all_eq_true.mp rfl) _,
      isAllowed_memberLine (List.all_eq_true.mp rfl) _⟩, ?_⟩
  exact List.forall_mem_append.mpr
    ⟨List.all_eq_true.mp rfl, List.forall_mem_cons.mpr ⟨rfl, isAllowed_rolesYaml p.roles⟩⟩

/-- The tokens of a printed profile. -/
theorem ofText_toYaml (p : Profile) :
    ∃ tokens m, Tokens.ofText p.toYaml.toList = Tokens.behind tokens (.finished m)
      ∧ tokens.map Prod.fst = p.tokens.reverse := by
  have hstart : ∀ x ∈ p.toYaml.toList.head?, beginsToken x = true := by
    rw [toYaml_eq, memberLine_append]
    exact beginsToken_name (show isMemberName "image_path".toList = true from rfl) _
  obtain ⟨tokens, m, hread, hkinds⟩ :=
    (reads_profile p).ofText rfl hstart (isAllowed_toYaml p)
  refine ⟨tokens, m, hread, hkinds.trans ?_⟩
  rw [Profile.tokens, List.reverse_append]
  rfl

end ReleaseGate
