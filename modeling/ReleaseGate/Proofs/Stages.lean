import ReleaseGate.Proofs.Course
import ReleaseGate.Proofs.Resolution

/-!
# Stages — where a validation ends, and what it has done by then

A validation ends in one of four stages: the snapshot was not read, it was incomplete, the manifests
were not extracted, or there is a verdict. What it has written, whether it has called the extractor
and the status it exits with all follow from the stage, and the result alone tells which it is.
-/

namespace ReleaseGate

/-- Writing never fails, and there is a place for temporary files. -/
structure World.Ready (w : World) : Prop where
  unlimited : w.sink.limit = none
  flushes : w.sink.flushFails = false
  temporary : w.temporary.entries ≠ none

theorem World.Ready.writable {w : World} (h : w.Ready) : w.Writable :=
  ⟨h.unlimited, h.flushes⟩

/-- A failure of reading a snapshot. -/
inductive Failure.OfReading : Failure → Prop where
  | json (fault : Json.Fault) : OfReading (.json fault)
  | malformedSnapshot (reason : String) : OfReading (.malformedSnapshot reason)
  | unknownStream (application : String) : OfReading (.unknownStream application)

/-- A failure of the tool or of the manifests it should have left. -/
inductive Failure.OfExtraction : Failure → Prop where
  | extraction (image reason : String) : OfExtraction (.extraction image reason)
  | io (reason : String) : OfExtraction (.io reason)
  | manifestNotFound (path : String) : OfExtraction (.manifestNotFound path)

/-- The failures of an extractor are those of a tool: it cannot be run, or it does not copy. -/
def Extractor.FailsAsTool (extractor : Extractor) : Prop :=
  ∀ image source destination f, (extractor image source destination).failure = some f →
    (∃ image reason, f = .extraction image reason) ∨ ∃ reason, f = .io reason

namespace Validation

/-- How far a validation comes. -/
inductive Stage where
  | unread
  | incomplete
  | unextracted
  | judged
  deriving DecidableEq

/-- The stage that a result tells of. -/
def Stage.of : Except Failure Verdict → Stage
  | .ok _ => judged
  | .error (.json _) | .error (.malformedSnapshot _) | .error (.unknownStream _) => unread
  | .error (.missingComponents _ _) => incomplete
  | .error _ => unextracted

/-- The component that the bundle's key names. -/
structure IsBundle (rs : Rules) (s : Snapshot) (bundle : Component) : Prop where
  listed : bundle ∈ s.components
  named : bundle.name = componentKey rs.profile.bundleComponent s.stream

/-- A run from a world has ended in a stage, and has done no more and no less than belongs to it. -/
inductive EndsIn (raw : String) (rs : Rules) (e : Except Failure Verdict × World) (w : World) :
    Stage → Prop where
  | unread (f : Failure) :
      (Snapshot.read raw).2 = .error f → Ends e w (.error f) [] [] → f.exitStatus = 2 →
      EndsIn raw rs e w .unread
  | incomplete (s : Snapshot) (absent rest : List String) :
      (Snapshot.read raw).2 = .ok s →
      absent = Required.missing s rs.profile s.stream → absent ≠ [] →
      Report.missingLines absent s.names
        = ("ERROR: " ++ (Failure.missingComponents absent s.names).message) :: rest →
      Ends e w (.error (.missingComponents absent s.names))
        (Text.encode (Report.header s ++ Report.ofLines (Report.missingLines absent s.names))) [] →
      (Failure.missingComponents absent s.names).exitStatus = 1 →
      EndsIn raw rs e w .incomplete
  | unextracted (s : Snapshot) (r : Required) (f : Failure) :
      Surveys raw rs s r → IsBundle rs s r.bundle → f.OfExtraction →
      Ends e w (.error f)
        (Text.encode (Report.header s ++ Report.digests r ++ Report.target r.bundle.image))
        [⟨r.bundle.image, rs.profile.imagePath⟩] →
      f.exitStatus = 2 →
      EndsIn raw rs e w .unextracted
  | judged (s : Snapshot) (r : Required) (refs : References) (v : Verdict) :
      Surveys raw rs s r → IsBundle rs s r.bundle → v = verdictOf r refs →
      Ends e w (.ok v)
        (Text.encode (Report.header s ++ Report.digests r ++ Report.target r.bundle.image
          ++ Report.references refs rs ++ Report.results v rs))
        [⟨r.bundle.image, rs.profile.imagePath⟩] →
      v.exitStatus = (if v.passed then 0 else 1) →
      EndsIn raw rs e w .judged

/-! ## The failures of a stage -/

theorem ofReading_of_read {raw : String} {f : Failure} (h : (Snapshot.read raw).2 = .error f) :
    f.OfReading := by
  rw [Snapshot.read] at h
  cases hv : Json.read raw with
  | error fault =>
      rw [hv] at h
      exact Except.error.inj h ▸ .json fault
  | ok v =>
      rw [hv] at h
      dsimp only at h
      cases hdoc : Snapshot.Document.ofJson v with
      | error misfit =>
          rw [hdoc] at h
          exact Except.error.inj h ▸ .malformedSnapshot _
      | ok doc =>
          rw [hdoc] at h
          rcases (Snapshot.ofDocument_eq_error doc f).mp h with ⟨-, hf⟩ | ⟨-, d, -, hf⟩
          · exact hf ▸ .unknownStream _
          · exact hf ▸ .malformedSnapshot _

theorem ofExtraction_of_extracted {extractor : Extractor} {rs : Rules} {image : String}
    {t : Temporary} {f : Failure} (hx : extractor.FailsAsTool)
    (h : extracted extractor rs image t = .error f) : f.OfExtraction := by
  rw [extracted] at h
  cases hd : t.entries with
  | none =>
      rw [hd] at h
      exact Except.error.inj h ▸ .io _
  | some d =>
      rw [hd] at h
      dsimp only at h
      cases hy : (extractor image rs.profile.imagePath (Extraction.destination t)).yields
          rs.profile t.shownAs with
      | ok m =>
          rw [hy] at h
          cases h
      | error f' =>
          rw [hy] at h
          have hf : f' = f := Except.error.inj h
          rcases Extraction.yields_error hy with htool | ⟨reason, hf'⟩ | ⟨path, hf'⟩
          · rcases hx _ _ _ _ htool with ⟨_, _, hf'⟩ | ⟨_, hf'⟩
            · exact hf ▸ hf' ▸ .extraction _ _
            · exact hf ▸ hf' ▸ .io _
          · exact hf ▸ hf' ▸ .io reason
          · exact hf ▸ hf' ▸ .manifestNotFound path

/-- The result alone tells the stage. -/
theorem EndsIn.stage_eq {raw : String} {rs : Rules} {e : Except Failure Verdict × World}
    {w : World} {stage : Stage} (h : EndsIn raw rs e w stage) : stage = Stage.of e.1 := by
  cases h with
  | unread f hread hends hexit =>
      rw [hends.result]
      cases ofReading_of_read hread <;> rfl
  | incomplete s absent rest hread hmissing hsome hlines hends hexit =>
      rw [hends.result]
      rfl
  | unextracted s r f hsurveys hbundle hf hends hexit =>
      rw [hends.result]
      cases hf <;> rfl
  | judged s r refs v hsurveys hbundle hv hends hexit =>
      rw [hends.result]
      rfl

/-- The report and the failure say the same about missing components. -/
private theorem error_message (absent available : List String) :
    "ERROR: Missing required components: " ++ Text.joined ", " absent
      = "ERROR: " ++ (Failure.missingComponents absent available).message := by
  have herror : "ERROR: Missing required components: "
      = "ERROR: " ++ "Missing required components: " := by simp only [String.reduceAppend]
  rw [herror, String.append_assoc]
  rfl

/-- The first line on missing components is the message of the failure that follows. -/
theorem missingLines_eq (absent available : List String) :
    ∃ rest, Report.missingLines absent available
      = ("ERROR: " ++ (Failure.missingComponents absent available).message) :: rest := by
  rw [Report.missingLines, error_message absent available, List.cons_append, List.cons_append]
  exact ⟨_, rfl⟩

section

variable {raw : String} {extractor : Extractor} {rs : Rules} {w : World}

/-- The bundle that was found is the one its key names. -/
theorem Surveys.isBundle {s : Snapshot} {r : Required} (h : Surveys raw rs s r) :
    IsBundle rs s r.bundle := by
  have hfound := (Required.resolve_eq_ok.mp h.resolved).2
  have hnodup := Snapshot.names_nodup_of_read h.read
  obtain ⟨hlisted, hnamed⟩ := (Snapshot.component?_eq_some hnodup _ _).mp hfound
  exact ⟨hlisted, hnamed⟩

/-- Every validation ends in a stage. -/
theorem exists_endsIn (raw : String) (rs : Rules) (hw : w.Ready) (hx : extractor.FailsAsTool) :
    ∃ stage, EndsIn raw rs ((validate raw extractor rs).exec w) w stage := by
  obtain ⟨d, hd⟩ := Option.ne_none_iff_exists'.mp hw.temporary
  cases hread : (Snapshot.read raw).2 with
  | error f =>
      have hcourse : course raw extractor rs w.temporary = ⟨"", .error f⟩ := by
        rw [course, hread]
      have hends := ends_of_course_eq hw.writable hcourse String.append_empty
      rw [Text.encode_empty] at hends
      refine ⟨.unread, .unread f hread hends ?_⟩
      cases ofReading_of_read hread <;> rfl
  | ok s =>
      -- the components can still be missing, and the extraction can fail
      cases hresolve : Required.resolve s s.stream rs.profile with
      | error absent =>
          obtain ⟨hmissing, hsome⟩ := Required.resolve_eq_error hresolve
          obtain ⟨rest, hlines⟩ := missingLines_eq absent s.names
          have hcourse := course_of_missing extractor w.temporary hread hresolve
          exact ⟨.incomplete, .incomplete s absent rest hread hmissing hsome hlines
            (ends_of_course_eq hw.writable hcourse String.append_empty) rfl⟩
      | ok r =>
          have hsurveys : Surveys raw rs s r := ⟨hread, hresolve⟩
          have hcourse := course_of_surveys extractor w.temporary hsurveys
          rw [callsOf, hd] at hcourse
          cases hyield : extracted extractor rs r.bundle.image w.temporary with
          | error f =>
              rw [hyield] at hcourse
              have hf := ofExtraction_of_extracted hx hyield
              refine ⟨.unextracted, .unextracted s r f hsurveys hsurveys.isBundle hf
                (ends_of_course_eq hw.writable hcourse String.append_empty) ?_⟩
              cases hf <;> rfl
          | ok refs =>
              rw [hyield] at hcourse
              refine ⟨.judged, .judged s r refs _ hsurveys hsurveys.isBundle rfl
                (ends_of_course_eq hw.writable hcourse ?_) rfl⟩
              show preface s r ++ conclusion r refs rs = _
              rw [preface, conclusion, ← String.append_assoc]

end

/-- Every validation ends in exactly one stage. -/
theorem ends_in_one_stage (raw : String) (rs : Rules) {extractor : Extractor} {w : World}
    (hw : w.Ready) (hx : extractor.FailsAsTool) :
    ∃! stage, EndsIn raw rs ((validate raw extractor rs).exec w) w stage := by
  obtain ⟨stage, h⟩ := exists_endsIn raw rs hw hx
  refine ⟨stage, h, fun other hother => ?_⟩
  rw [hother.stage_eq, h.stage_eq]

namespace Sample

/-- A profile with one role. -/
def profile : Profile :=
  ⟨"/m/", "b", ⟨"c", "m"⟩, [⟨"operator", "o", .configMap, "@(a+)"⟩]⟩

/-- A snapshot with the two components that the profile needs. -/
def raw : String :=
  "[\"ystream\", [[\"o-ystream\", \"o@aa\"], [\"b-ystream\", \"b\"]]]"

/-- A tool that leaves both manifests. -/
def extractor : Extractor :=
  fun _ _ _ => ⟨[("c", .file (Text.encode "")), ("m", .file (Text.encode "o@aa"))], none, []⟩

/-- A world in which nothing has been done. -/
def world : World :=
  ⟨Sink.unlimited, ⟨some [], "/tmp"⟩, [], []⟩

theorem world_ready : world.Ready :=
  ⟨rfl, rfl, Option.some_ne_none _⟩

theorem extractor_failsAsTool : extractor.FailsAsTool :=
  fun _ _ _ _ h => nomatch h

end Sample

theorem sample_ends_in_one_stage :
    (Sample.world.Ready ∧ Sample.extractor.FailsAsTool)
      ∧ ∃! stage, EndsIn Sample.raw ⟨Sample.profile, []⟩
        ((validate Sample.raw Sample.extractor ⟨Sample.profile, []⟩).exec Sample.world)
        Sample.world stage :=
  ⟨⟨Sample.world_ready, Sample.extractor_failsAsTool⟩,
    ends_in_one_stage Sample.raw _ Sample.world_ready Sample.extractor_failsAsTool⟩

end Validation

end ReleaseGate
