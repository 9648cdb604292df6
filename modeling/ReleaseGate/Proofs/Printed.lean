import ReleaseGate.CommandLine
import ReleaseGate.Profile.Reader
import ReleaseGate.Proofs.Listing
import ReleaseGate.Proofs.Utf8
import ReleaseGate.Proofs.Yaml.Fits
import ReleaseGate.Proofs.Yaml.Walks

/-!
# Printed profiles — a profile's text is read back as the profile

The tokens of a printed profile tell a mapping with its members, and the members of the form take
them one after the other. Nothing is asked of the texts in a profile, nor of its patterns: a profile
that cannot be compiled is read back as well.
-/

namespace ReleaseGate

open Yaml

/-- A member with a text. -/
def textTold (name value : String) : Told :=
  ⟨name.toList, [Written.token value],
    [.scalar none value.toList (Written.isPlain value.toList)]⟩

theorem tells_text (handles : Handles) (name value : String) :
    Tells handles .member (textTold name value).kinds (textTold name value).events :=
  .scalar .member value.toList (Written.isPlain value.toList)

theorem takes_textTold (name value expected : String) :
    Form.Takes (.text expected) (textTold name value).events value := by
  have h := Form.takes_text expected none value.toList (Written.isPlain value.toList)
  rwa [String.ofList_toList] at h

/-- The first of some members is taken, and then the others. -/
theorem fills_cons {σ : Type} {member : Form.MemberOf σ} {t : Told} {members : List Told}
    {s s' s'' : σ} (name : String) (hname : t.name = name.toList)
    (h : Form.Takes (member name s) t.events s')
    (hmore : Form.Fills member (members.flatMap Told.allEvents) s' s'') :
    Form.Fills member ((t :: members).flatMap Told.allEvents) s s'' := by
  rw [List.flatMap_cons, Told.allEvents, hname]
  exact .cons h hmore

/-- The first text for a member is taken, and then the other members. -/
theorem fills_text {σ : Type} {member : Form.MemberOf σ} {members : List Told} {s s' : σ}
    (name value : String) (keep : String → σ)
    (hmember : member name s = .once name none (.text "a string") keep)
    (hmore : Form.Fills member (members.flatMap Told.allEvents) (keep value) s') :
    Form.Fills member ((textTold name value :: members).flatMap Told.allEvents) s s' := by
  have h := Form.takes_once (takes_textTold name value "a string") name keep
  rw [← hmember] at h
  exact fills_cons name rfl h hmore

namespace ByManifest

/-- The members of the file names. -/
def members (b : ByManifest) : List Told :=
  [textTold "cluster_service_version" b.clusterServiceVersion, textTold "config_map" b.configMap]

/-- The events of the file names. -/
def events (b : ByManifest) : List (Yaml.Event Nat) :=
  .mapping none :: (b.members.flatMap Told.allEvents ++ [.mappingEnd])

theorem tells (handles : Handles) (b : ByManifest) :
    Tells handles .member (.blockMapping :: (b.members.flatMap Told.allKinds ++ [.blockEnd]))
      b.events :=
  .mapping nofun (List.forall_mem_cons.mpr
    ⟨tells_text _ _ _, List.forall_mem_singleton.mpr (tells_text _ _ _)⟩)

theorem takes (b : ByManifest) : Form.Takes form b.events b := by
  have hfills : Form.Fills Draft.member (b.members.flatMap Told.allEvents) ⟨none, none⟩
      ⟨some b.clusterServiceVersion, some b.configMap⟩ :=
    fills_text "cluster_service_version" b.clusterServiceVersion (fun s => ⟨some s, none⟩) rfl <|
    fills_text "config_map" b.configMap (fun s => ⟨some b.clusterServiceVersion, some s⟩) rfl <|
    .nil _
  have hfinish : Draft.finish ⟨some b.clusterServiceVersion, some b.configMap⟩ = .ok b := rfl
  exact Form.takes_mapping hfills hfinish "struct ManifestFiles"

end ByManifest

namespace Rule

/-- The members of a rule. -/
def members (r : Rule) : List Told :=
  [textTold "role" r.role, textTold "component" r.component, textTold "manifest" r.manifest.key,
    textTold "pattern" r.pattern]

/-- The tokens of a rule, behind the hyphen of its entry. -/
def kinds (r : Rule) : List Token :=
  .blockMapping :: (r.members.flatMap Told.allKinds ++ [.blockEnd])

/-- The events of a rule. -/
def events (r : Rule) : List (Yaml.Event Nat) :=
  .mapping none :: (r.members.flatMap Told.allEvents ++ [.mappingEnd])

theorem tokens_eq (r : Rule) : r.tokens = .entry :: r.kinds := rfl

theorem tells (handles : Handles) (r : Rule) : Tells handles .block r.kinds r.events :=
  .mapping nofun (List.forall_mem_cons.mpr ⟨tells_text _ _ _, List.forall_mem_cons.mpr
    ⟨tells_text _ _ _, List.forall_mem_cons.mpr ⟨tells_text _ _ _,
      List.forall_mem_singleton.mpr (tells_text _ _ _)⟩⟩⟩)

theorem takes (r : Rule) : Form.Takes form r.events r := by
  have hword : Manifest.words.lookup (String.ofList r.manifest.key.toList) = some r.manifest := by
    rw [String.ofList_toList]
    cases r.manifest <;> rfl
  have hmanifest : Form.Takes (Draft.member "manifest" ⟨some r.role, some r.component, none, none⟩) _
      ⟨some r.role, some r.component, some r.manifest, none⟩ :=
    Form.takes_once (Form.takes_word hword (Written.isPlain r.manifest.key.toList)) "manifest"
      fun m => (⟨some r.role, some r.component, some m, none⟩ : Draft)
  have hfills : Form.Fills Draft.member (r.members.flatMap Told.allEvents) ⟨none, none, none, none⟩
      ⟨some r.role, some r.component, some r.manifest, some r.pattern⟩ :=
    fills_text "role" r.role (fun s => ⟨some s, none, none, none⟩) rfl <|
    fills_text "component" r.component (fun s => ⟨some r.role, some s, none, none⟩) rfl <|
    fills_cons "manifest" rfl hmanifest <|
    fills_text "pattern" r.pattern
      (fun s => ⟨some r.role, some r.component, some r.manifest, some s⟩) rfl <|
    .nil _
  have hfinish : Draft.finish ⟨some r.role, some r.component, some r.manifest, some r.pattern⟩
      = .ok r := rfl
  exact Form.takes_mapping hfills hfinish "struct RoleRule"

end Rule

namespace Profile

/-- The tokens of the list of the rules tell a list of their mappings. -/
theorem tells_roles (handles : Handles) (rules : List Rule) :
    Tells handles .member (rolesTokens rules)
      (.sequence none :: (rules.flatMap Rule.events ++ [.sequenceEnd])) := by
  cases rules with
  | nil => exact .emptyList .member
  | cons r rules =>
      exact .list (List.cons_ne_nil r rules) fun r' _ => r'.tells handles

/-- The members of a profile. -/
def members (p : Profile) : List Told :=
  [textTold "image_path" p.imagePath, textTold "bundle_component" p.bundleComponent,
    ⟨"manifests".toList,
      .blockMapping :: (p.fileNames.members.flatMap Told.allKinds ++ [.blockEnd]),
      p.fileNames.events⟩,
    ⟨"roles".toList, rolesTokens p.roles,
      .sequence none :: (p.roles.flatMap Rule.events ++ [.sequenceEnd])⟩]

/-- The events of a profile. -/
def events (p : Profile) : List (Yaml.Event Nat) :=
  .mapping none :: (p.members.flatMap Told.allEvents ++ [.mappingEnd])

theorem tokens_eq (p : Profile) :
    p.tokens = .blockMapping :: (p.members.flatMap Told.allKinds ++ [.blockEnd]) := by
  simp only [tokens, lineTokens, ByManifest.tokens, members, List.flatMap_cons, List.flatMap_nil,
    List.append_assoc]
  rfl

theorem tells (handles : Handles) (p : Profile) :
    Tells handles .block p.tokens p.events := by
  rw [tokens_eq]
  exact .mapping nofun (List.forall_mem_cons.mpr ⟨tells_text _ _ _, List.forall_mem_cons.mpr
    ⟨tells_text _ _ _, List.forall_mem_cons.mpr ⟨p.fileNames.tells handles,
      List.forall_mem_singleton.mpr (tells_roles handles p.roles)⟩⟩⟩)

theorem takes (p : Profile) : Form.Takes form p.events p := by
  have hnames : Form.Takes
      (Draft.member "manifests" ⟨some p.imagePath, some p.bundleComponent, none, none⟩) _
      ⟨some p.imagePath, some p.bundleComponent, some p.fileNames, none⟩ :=
    Form.takes_once p.fileNames.takes "manifests" fun f =>
      (⟨some p.imagePath, some p.bundleComponent, some f, none⟩ : Draft)
  have hlist : Form.Takes (.sequence "a sequence" Rule.form)
      (.sequence none :: (p.roles.flatMap Rule.events ++ [.sequenceEnd])) p.roles := by
    have hbegin : ∀ r ∈ p.roles, ∃ e more, r.events = e :: more ∧ e ≠ .sequenceEnd :=
      fun r _ => ⟨.mapping none, _, rfl, nofun⟩
    have h : Form.Takes (.sequence "a sequence" Rule.form) _ (p.roles.map id) :=
      Form.takes_sequence (fun r _ => r.takes) hbegin "a sequence"
    rwa [List.map_id] at h
  have hroles : Form.Takes
      (Draft.member "roles" ⟨some p.imagePath, some p.bundleComponent, some p.fileNames, none⟩) _
      ⟨some p.imagePath, some p.bundleComponent, some p.fileNames, some p.roles⟩ :=
    Form.takes_once hlist "roles" fun rs =>
      (⟨some p.imagePath, some p.bundleComponent, some p.fileNames, some rs⟩ : Draft)
  have hfills : Form.Fills Draft.member (p.members.flatMap Told.allEvents) ⟨none, none, none, none⟩
      ⟨some p.imagePath, some p.bundleComponent, some p.fileNames, some p.roles⟩ :=
    fills_text "image_path" p.imagePath (fun s => ⟨some s, none, none, none⟩) rfl <|
    fills_text "bundle_component" p.bundleComponent
      (fun s => ⟨some p.imagePath, some s, none, none⟩) rfl <|
    fills_cons "manifests" rfl hnames <|
    fills_cons "roles" rfl hroles <|
    .nil _
  have hfinish : Draft.finish
      ⟨some p.imagePath, some p.bundleComponent, some p.fileNames, some p.roles⟩ = .ok p := rfl
  exact Form.takes_mapping hfills hfinish "struct ExtractionProfile"

/-- The text of a profile is read back as the profile. -/
theorem ofYaml_toYaml (p : Profile) : ofYaml p.toYaml = .ok p := by
  obtain ⟨tokens, m, htext, hkinds⟩ := ofText_toYaml p
  have hbegins : (Tokens.ofText p.toYaml.toList).Begins p.tokens (.finished m) := by
    have h := Tokens.begins_behind tokens (.finished m)
    rwa [hkinds, List.reverse_reverse, ← htext] at h
  -- The tokens tell the events of the profile, and the form makes the profile of those.
  have htells := p.tells standardHandles
  rw [tokens_eq] at hbegins htells
  obtain ⟨marked, hdocument, hmarked⟩ := htells.ofText hbegins
  have htakes : Form.Takes form (marked.map Prod.fst) p := hmarked ▸ p.takes
  rw [ofYaml, htakes.readText hdocument]
  rfl

/-- A file with the bytes of a text is read as that text. -/
theorem load_encode (path text : String) :
    load path (.ok (Text.encode text)) = ([loading path], ofYaml text) := by
  have htext : textOf (.ok (Text.encode text)) = .ok text := by
    rw [textOf, Text.decode?_eq_some_iff.mpr rfl]
    rfl
  rw [load, htext]
  rfl

end Profile

namespace CommandLine

/-- What a run prints for a profile is read back as the profile, also from a file that holds it. -/
theorem printed_profile_reloads {m : Type → Type} [Monad m] (s : Surroundings m) (o : Options)
    (p : Profile) :
    runWith s { o with printProfile := true } p = pure ⟨[], p.toYaml, [], .ok exitPassed⟩
      ∧ Profile.ofYaml p.toYaml = .ok p
      ∧ ∀ path, Profile.load path (.ok (Text.encode p.toYaml))
          = ([Profile.loading path], .ok p) := by
  refine ⟨rfl, p.ofYaml_toYaml, fun path => ?_⟩
  rw [Profile.load_encode, p.ofYaml_toYaml]

end CommandLine

end ReleaseGate
