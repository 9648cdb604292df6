import ReleaseGate.Proofs.Stages

/-!
# Indifference — what a validation does not look at

Of a snapshot a validation uses its stream and the components that the profile needs. Two snapshots
that agree on these are given the same components or lack the same keys, so whatever comes after that
is the same as well: the calls, the verdict or the failure, and the report. The report shows more of
a snapshot in two places only, where it names the application and where it lists what is available.
-/

namespace ReleaseGate

/-- The same stream, and the same component for every key that a profile needs. -/
structure Snapshot.AgreeFor (p : Profile) (s s' : Snapshot) : Prop where
  stream : s.stream = s'.stream
  component : ∀ key ∈ Required.keys p s.stream, s.component? key = s'.component? key

/-! ## The places where a report shows more of a snapshot -/

namespace Report

/-- The beginning of a report, up to the name of the application. -/
def opening (application : String) : String :=
  ofLines ["=== Validating Snapshot ===", "Application: " ++ application]

/-- The end of the report on missing components: the names of those that are there. -/
def available (names : List String) : String :=
  ofLines ((if names.isEmpty then ["  (none)"] else []) ++ names.map fun name => "  - " ++ name)

/-- What a header shows behind the name of the application. -/
def behindApplication (stream : Stream) : String :=
  ofLines ["Stream: " ++ stream.name, ""]

/-- What the report on missing components shows before the names of those that are there. -/
def beforeAvailable (missing : List String) : String :=
  ofLines ["ERROR: Missing required components: " ++ Text.joined ", " missing, "",
    "Available components:"]

theorem ofLines_append (a b : List String) : ofLines (a ++ b) = ofLines a ++ ofLines b := by
  rw [ofLines, ofLines, ofLines, List.map_append, String.join_append]

theorem header_eq (s : Snapshot) :
    header s = opening s.application ++ behindApplication s.stream := by
  rw [header, opening, behindApplication, ← ofLines_append]
  rfl

theorem missingComponents_eq (missing names : List String) :
    missingComponents missing names = beforeAvailable missing ++ available names := by
  rw [missingComponents, missingLines, beforeAvailable, available, ← ofLines_append,
    List.append_assoc]

end Report

/-! ## What is given to a profile -/

namespace Required

variable {p : Profile} {s s' : Snapshot}

theorem missing_congr (h : s.AgreeFor p s') :
    missing s p s.stream = missing s' p s'.stream := by
  rw [missing, missing, ← h.stream]
  refine List.filter_congr fun key hkey => ?_
  rw [h.component key hkey]

/-- Rules whose keys name the same components are given the same. -/
theorem mapM_ofRule?_congr {stream : Stream} (rules : List Rule)
    (h : ∀ r ∈ rules, s.component? (componentKey r.component stream)
      = s'.component? (componentKey r.component stream)) :
    rules.mapM (ofRule? s stream) = rules.mapM (ofRule? s' stream) := by
  induction rules with
  | nil => rfl
  | cons r rules ih =>
      obtain ⟨hfirst, hrest⟩ := List.forall_mem_cons.mp h
      rw [List.mapM_cons, List.mapM_cons, ih hrest, ofRule?, ofRule?, hfirst]

/-- Snapshots that agree are resolved alike. -/
theorem resolve_congr (h : s.AgreeFor p s') :
    resolve s s.stream p = resolve s' s'.stream p := by
  obtain ⟨hroles, hbundle⟩ := forall_mem_keys.mp h.component
  rw [resolve, resolve, missing_congr h, ← h.stream, hbundle, mapM_ofRule?_congr p.roles hroles]

end Required

/-! ## Snapshots that agree -/

/-- Components may be put in another order, added and removed, as long as those with a name that is
needed stay the same. -/
theorem Snapshot.agreeFor_of_mem_iff {p : Profile} {s s' : Snapshot} (hs : s.names.Nodup)
    (hs' : s'.names.Nodup) (hstream : s.stream = s'.stream)
    (h : ∀ c : Component, c.name ∈ Required.keys p s.stream →
      (c ∈ s.components ↔ c ∈ s'.components)) : s.AgreeFor p s' := by
  refine ⟨hstream, fun key hkey => Option.ext fun c => ?_⟩
  rw [component?_eq_some hs, component?_eq_some hs']
  refine and_congr_left fun hname => h c ?_
  rw [hname]
  exact hkey

namespace Snapshot

/-- Two values for a component that differ in members that no component has. -/
inductive SameEntry : Json → Json → Prop where
  | refl (v : Json) : SameEntry v v
  | object {members members' : List (String × Json)} :
      members.lookup "name" = members'.lookup "name" →
      members.lookup "containerImage" = members'.lookup "containerImage" →
      SameEntry (.object members) (.object members')

/-- Two values for the components of a document. -/
inductive SameEntries : Option Json → Option Json → Prop where
  | refl (v : Option Json) : SameEntries v v
  | array {items items' : List Json} : List.Forall₂ SameEntry items items' →
      SameEntries (some (.array items)) (some (.array items'))

/-- Two values for a document that differ in members that no document has, and in such members of
its components. -/
inductive SameDocument : Json → Json → Prop where
  | refl (v : Json) : SameDocument v v
  | object {members members' : List (String × Json)} :
      members.lookup "application" = members'.lookup "application" →
      SameEntries (members.lookup "components") (members'.lookup "components") →
      SameDocument (.object members) (.object members')
  | array {application entries entries' : Json} :
      SameEntries (some entries) (some entries') →
      SameDocument (.array [application, entries]) (.array [application, entries'])

theorem SameEntry.entryOf_eq {v v' : Json} (h : SameEntry v v') : entryOf v = entryOf v' := by
  cases h with
  | refl => rfl
  | object hname himage =>
      rw [entryOf, entryOf, field, field, field, field, hname, himage]

theorem mapM_entryOf_eq {items items' : List Json} (h : List.Forall₂ SameEntry items items') :
    items.mapM entryOf = items'.mapM entryOf := by
  induction h with
  | nil => rfl
  | cons hfirst _ ih => rw [List.mapM_cons, List.mapM_cons, hfirst.entryOf_eq, ih]

theorem SameEntries.entriesOf_eq {v v' : Json} (h : SameEntries (some v) (some v')) :
    entriesOf v = entriesOf v' := by
  cases h with
  | refl => rfl
  | array hitems =>
      rw [entriesOf, entriesOf]
      exact mapM_entryOf_eq hitems

/-- A field whose value may be changed so, or that is left out. -/
theorem SameEntries.field_eq {members members' : List (String × Json)} {name : String}
    (h : SameEntries (members.lookup name) (members'.lookup name)) :
    field members name [] entriesOf = field members' name [] entriesOf := by
  rw [field, field]
  generalize members.lookup name = entries at h
  generalize members'.lookup name = entries' at h
  cases h with
  | refl => rfl
  | array hitems => exact SameEntries.entriesOf_eq (.array hitems)

/-- Members that are not known do not matter to the fit, not even to why it fails. -/
theorem SameDocument.ofJson_eq {v v' : Json} (h : SameDocument v v') :
    Document.ofJson v = Document.ofJson v' := by
  cases h with
  | refl => rfl
  | @object members members' happ hentries =>
      have hfield : field members "application" "" text = field members' "application" "" text := by
        rw [field, field, happ]
      rw [Document.ofJson, Document.ofJson, hfield, hentries.field_eq]
  | @array application entries entries' hentries =>
      show (text application >>= fun a => entriesOf entries >>= fun es => pure (Document.mk a es))
        = (text application >>= fun a => entriesOf entries' >>= fun es => pure (Document.mk a es))
      rw [hentries.entriesOf_eq]

/-- Texts that differ in unknown members are read alike, with the same notes. -/
theorem read_congr {raw raw' : String} {v v' : Json} (hv : Json.read raw = .ok v)
    (hv' : Json.read raw' = .ok v') (h : SameDocument v v') : read raw = read raw' := by
  rw [read, read, hv, hv']
  dsimp only
  rw [h.ofJson_eq]

end Snapshot

/-! ## Two runs -/

namespace Validation

/-- What can be seen of two runs that are given the same: all is the same but the names of the
applications and, where components are missing, the names of those that are available. -/
inductive SameBut (s s' : Snapshot) (w : World) (e e' : Except Failure Verdict × World) :
    Prop where
  | missing (absent : List String) (shown : String) :
      Ends e w (.error (.missingComponents absent s.names))
        (Text.encode (Report.opening s.application ++ (shown ++ Report.available s.names))) [] →
      Ends e' w (.error (.missingComponents absent s'.names))
        (Text.encode (Report.opening s'.application ++ (shown ++ Report.available s'.names))) [] →
      SameBut s s' w e e'
  | given (result : Except Failure Verdict) (shown : String) (calls : List Call) :
      Ends e w result (Text.encode (Report.opening s.application ++ shown)) calls →
      Ends e' w result (Text.encode (Report.opening s'.application ++ shown)) calls →
      SameBut s s' w e e'

/-- The report of a run that finds components missing. -/
theorem text_of_missing (s : Snapshot) (absent : List String) (f : Failure) :
    Course.text ⟨Report.header s ++ Report.missingComponents absent s.names, .error f⟩
      = Report.opening s.application ++ (Report.behindApplication s.stream
        ++ Report.beforeAvailable absent ++ Report.available s.names) := by
  show Report.header s ++ Report.missingComponents absent s.names ++ "" = _
  rw [String.append_empty, Report.header_eq, Report.missingComponents_eq, String.append_assoc,
    String.append_assoc]

/-- The report of a run that is given all components. -/
theorem text_of_preface (s : Snapshot) (r : Required) (rest : Except Failure Course.Leg) :
    Course.text ⟨preface s r, rest⟩ = Report.opening s.application
      ++ (Report.behindApplication s.stream ++ Report.digests r ++ Report.target r.bundle.image
        ++ Course.after ⟨"", rest⟩) := by
  show preface s r ++ Course.after ⟨"", rest⟩ = _
  rw [preface, Report.header_eq]
  simp only [String.append_assoc]

variable {raw raw' : String} {s s' : Snapshot} {extractor : Extractor} {rs : Rules} {w : World}

/-- Snapshots that agree lead to the same verdict. -/
theorem sameBut_of_agreeFor (hw : w.Writable) (hread : (Snapshot.read raw).2 = .ok s)
    (hread' : (Snapshot.read raw').2 = .ok s') (h : s.AgreeFor rs.profile s') :
    SameBut s s' w ((validate raw extractor rs).exec w) ((validate raw' extractor rs).exec w) := by
  have hresolve := Required.resolve_congr h
  cases hgiven : Required.resolve s s.stream rs.profile with
  | error absent =>
      have hcourse := course_of_missing extractor w.temporary hread hgiven
      have hcourse' := course_of_missing extractor w.temporary hread' (hresolve.symm.trans hgiven)
      have htext' := text_of_missing s' absent (.missingComponents absent s'.names)
      rw [← h.stream] at htext'
      exact .missing absent _ (ends_of_course_eq hw hcourse (text_of_missing s absent _))
        (ends_of_course_eq hw hcourse' htext')
  | ok r =>
      have hcourse := course_of_surveys extractor w.temporary ⟨hread, hgiven⟩
      have hcourse' := course_of_surveys extractor w.temporary
        ⟨hread', hresolve.symm.trans hgiven⟩
      -- behind the preface nothing depends on the snapshot any more
      have htext' := text_of_preface s' r ((course raw extractor rs w.temporary).rest)
      rw [hcourse, ← h.stream] at htext'
      have hends := ends_of_course_eq hw hcourse (text_of_preface s r _)
      have hends' := ends_of_course_eq hw hcourse' htext'
      exact .given _ _ _ hends hends'

/-- Nothing but the stream and the needed components of a snapshot makes a difference: neither other
components, nor the order of all, nor members of its document that are not known. -/
theorem only_required_content_matters (rs : Rules) (extractor : Extractor) (raw raw' : String)
    {w : World} (hw : w.Writable) :
    (∀ s s', (Snapshot.read raw).2 = .ok s → (Snapshot.read raw').2 = .ok s' →
      s.AgreeFor rs.profile s' →
        SameBut s s' w ((validate raw extractor rs).exec w) ((validate raw' extractor rs).exec w))
    ∧ (∀ s s', (Snapshot.read raw).2 = .ok s → (Snapshot.read raw').2 = .ok s' →
      s.stream = s'.stream →
      (∀ c : Component, c.name ∈ Required.keys rs.profile s.stream →
        (c ∈ s.components ↔ c ∈ s'.components)) →
        SameBut s s' w ((validate raw extractor rs).exec w) ((validate raw' extractor rs).exec w))
    ∧ ∀ v v', Json.read raw = .ok v → Json.read raw' = .ok v' → Snapshot.SameDocument v v' →
        (validate raw extractor rs).exec w = (validate raw' extractor rs).exec w := by
  refine ⟨?_, ?_, ?_⟩
  · intro s s' hread hread' h
    exact sameBut_of_agreeFor hw hread hread' h
  · intro s s' hread hread' hstream h
    exact sameBut_of_agreeFor hw hread hread' (Snapshot.agreeFor_of_mem_iff
      (Snapshot.names_nodup_of_read hread) (Snapshot.names_nodup_of_read hread') hstream h)
  · intro v v' hv hv' h
    rw [validate, validate, Snapshot.read_congr hv hv' h]

namespace Sample

/-- The snapshot of another application with the same two components, in another order, among other
components and with members that are not known. -/
def other : String :=
  "\x7b\"by\": \"me\", \"application\": \"my-ystream\", \"components\": [" ++
    "[\"x\", \"x\"], \x7b\"name\": \"b-ystream\", \"containerImage\": \"b\", \"tag\": null\x7d, " ++
    "[\"o-ystream\", \"o@aa\"]]\x7d"

end Sample

theorem sample_only_required_content_matters :
    ∃ s s', (Snapshot.read Sample.raw).2 = .ok s ∧ (Snapshot.read Sample.other).2 = .ok s'
      ∧ s.components.length = 2 ∧ s'.components.length = 3 ∧ s.AgreeFor Sample.profile s'
      ∧ SameBut s s' Sample.world
        ((validate Sample.raw Sample.extractor ⟨Sample.profile, []⟩).exec Sample.world)
        ((validate Sample.other Sample.extractor ⟨Sample.profile, []⟩).exec Sample.world) := by
  have hread : (Snapshot.read Sample.raw).2
      = .ok ⟨"ystream", .minor, [⟨"o-ystream", "o@aa"⟩, ⟨"b-ystream", "b"⟩]⟩ := by
    decide +kernel
  have hread' : (Snapshot.read Sample.other).2
      = .ok ⟨"my-ystream", .minor, [⟨"x", "x"⟩, ⟨"b-ystream", "b"⟩, ⟨"o-ystream", "o@aa"⟩]⟩ := by
    decide +kernel
  have hagree : Snapshot.AgreeFor Sample.profile
      ⟨"ystream", .minor, [⟨"o-ystream", "o@aa"⟩, ⟨"b-ystream", "b"⟩]⟩
      ⟨"my-ystream", .minor, [⟨"x", "x"⟩, ⟨"b-ystream", "b"⟩, ⟨"o-ystream", "o@aa"⟩]⟩ :=
    ⟨rfl, by decide⟩
  exact ⟨_, _, hread, hread', rfl, rfl, hagree,
    (only_required_content_matters ⟨Sample.profile, []⟩ Sample.extractor Sample.raw Sample.other
      Sample.world_ready.writable).1 _ _ hread hread' hagree⟩

end Validation

end ReleaseGate
