import ReleaseGate.Proofs.Manifests
import ReleaseGate.Validation

/-!
# The course of a validation

What a validation is going to do can be told from the snapshot, the rules and the extractor, before
anything is written: a first part of the report, then a failure or an extraction, then a failure or
the rest of the report and the verdict. This is its course. A run writes at most two texts on it,
flushes between them, and calls the extractor after that. So a validation meets its sink in three
places only, and for every sink it is enough to look at these.
-/

namespace ReleaseGate

/-- The sink takes all that is written, and flushing it never fails. -/
structure World.Writable (w : World) : Prop where
  unlimited : w.sink.limit = none
  flushes : w.sink.flushFails = false

/-! ## Runs that differ in their log -/

/-- Two worlds with the given temporary files that differ in the log at most. -/
structure World.Alike (t : Temporary) (w w' : World) : Prop where
  sink : w.sink = w'.sink
  calls : w.calls = w'.calls
  left : w.temporary = t
  right : w'.temporary = t

theorem World.Alike.refl (w : World) : World.Alike w.temporary w w := ⟨rfl, rfl, rfl, rfl⟩

namespace Run

variable {α β : Type} {t : Temporary}

/-- Two runs that do the same but for what they note. -/
def Like (t : Temporary) (m m' : Run α) : Prop :=
  ∀ w w', World.Alike t w w' →
    (m.exec w).1 = (m'.exec w').1 ∧ World.Alike t (m.exec w).2 (m'.exec w').2

namespace Like

theorem pure (a : α) : Like t (Pure.pure a) (Pure.pure a) :=
  fun _ _ h => ⟨rfl, h⟩

theorem throw (f : Failure) : Like t (MonadExcept.throw f : Run α) (MonadExcept.throw f) :=
  fun _ _ h => ⟨rfl, h⟩

theorem note (events : List Event) : Like t (Run.note events) (Pure.pure ()) :=
  fun _ _ h => ⟨rfl, h.sink, h.calls, h.left, h.right⟩

theorem write (text : String) : Like t (Run.write text) (Run.write text) := by
  intro w w' h
  rw [exec_write, exec_write, h.sink]
  exact ⟨rfl, rfl, h.calls, h.left, h.right⟩

theorem flush : Like t Run.flush Run.flush := by
  intro w w' h
  rw [exec_flush, exec_flush, h.sink]
  exact ⟨rfl, h⟩

/-- Runs that go on alike behind runs that are alike. -/
theorem bind {m m' : Run α} {next next' : α → Run β} (h : Like t m m')
    (hnext : ∀ a, Like t (next a) (next' a)) : Like t (m >>= next) (m' >>= next') := by
  intro w w' hw
  obtain ⟨hresult, hworld⟩ := h w w' hw
  cases hm : m.exec w with
  | mk r v =>
      cases hm' : m'.exec w' with
      | mk r' v' =>
          rw [hm, hm'] at hresult hworld
          have hr : r = r' := hresult
          cases r' with
          | error f =>
              rw [hr] at hm
              rw [exec_bind_error hm, exec_bind_error hm']
              exact ⟨rfl, hworld⟩
          | ok a =>
              rw [hr] at hm
              rw [exec_bind_ok hm, exec_bind_ok hm']
              exact hnext a v v' hworld

end Like

/-! ## Writing as one text -/

theorem ext {m m' : Run α} (h : ∀ w, m.exec w = m'.exec w) : m = m' :=
  funext h

theorem writeLines_eq (lines : List String) : writeLines lines = write (Report.ofLines lines) :=
  ext (exec_writeLines lines)

theorem write_bind_write (a b : String) (next : Unit → Run β) :
    (write a >>= fun _ => write b >>= next) = write (a ++ b) >>= next := by
  rw [← ext (exec_write_write a b), bind_assoc]

end Run

/-! ## Courses -/

namespace Validation

/-- What a course comes to behind the flush. -/
structure Course.Leg where
  calls : List Call
  /-- The rest of the report and the verdict, unless there is a failure. -/
  ending : Except Failure (String × Verdict)

/-- What a validation is going to do. -/
structure Course where
  before : String
  rest : Except Failure Course.Leg

/-- Take the course: the only steps that meet the sink are two writes and a flush. -/
def Course.run (c : Course) : Run Verdict := do
  Run.write c.before
  match c.rest with
  | .error f => throw f
  | .ok leg => do
    Run.flush
    modify fun w => { w with calls := w.calls ++ leg.calls }
    match leg.ending with
    | .error f => throw f
    | .ok (text, v) => do
      Run.write text
      return v

namespace Course

variable (c : Course)

/-- What the course comes to when nothing fails but what it foretells. -/
def result : Except Failure Verdict :=
  match c.rest with
  | .error f => .error f
  | .ok leg => leg.ending.map Prod.snd

/-- What is written behind the flush. -/
def after : String :=
  match c.rest with
  | .error _ => ""
  | .ok leg =>
    match leg.ending with
    | .error _ => ""
    | .ok (text, _) => text

/-- All that is written on the course. -/
def text : String :=
  c.before ++ c.after

/-- The calls made on the course. -/
def calls : List Call :=
  match c.rest with
  | .error _ => []
  | .ok leg => leg.calls

end Course

/-- The part of the report that is written before the extraction. -/
def preface (s : Snapshot) (r : Required) : String :=
  Report.header s ++ Report.digests r ++ Report.target r.bundle.image

/-- The part of the report that is written behind the extraction. -/
def conclusion (r : Required) (refs : References) (rs : Rules) : String :=
  Report.references refs rs ++ Report.results (verdictOf r refs) rs

/-- The references that an extraction yields, if there is a place for it. -/
def extracted (extractor : Extractor) (rs : Rules) (image : String) (t : Temporary) :
    Except Failure References :=
  match t.entries with
  | none => .error (Extraction.noPlace t)
  | some _ =>
    ((extractor image rs.profile.imagePath (Extraction.destination t)).yields rs.profile
      t.shownAs).map (References.ofManifests rs)

/-- The calls that an extraction makes. -/
def callsOf (rs : Rules) (image : String) (t : Temporary) : List Call :=
  match t.entries with
  | none => []
  | some _ => [⟨image, rs.profile.imagePath⟩]

/-- The course of a validation from a snapshot that was read. -/
def courseOf (s : Snapshot) (extractor : Extractor) (rs : Rules) (t : Temporary) : Course :=
  match Required.resolve s s.stream rs.profile with
  | .error absent =>
    ⟨Report.header s ++ Report.missingComponents absent s.names,
      .error (.missingComponents absent s.names)⟩
  | .ok r =>
    ⟨preface s r, .ok ⟨callsOf rs r.bundle.image t,
      (extracted extractor rs r.bundle.image t).map fun refs =>
        (conclusion r refs rs, verdictOf r refs)⟩⟩

/-- The course of a validation. -/
def course (raw : String) (extractor : Extractor) (rs : Rules) (t : Temporary) : Course :=
  match (Snapshot.read raw).2 with
  | .error f => ⟨"", .error f⟩
  | .ok s => courseOf s extractor rs t

/-- What can be seen of a run from a world: its result, the bytes it has added and the calls. -/
structure Ends (e : Except Failure Verdict × World) (w : World) (result : Except Failure Verdict)
    (bytes : List UInt8) (calls : List Call) : Prop where
  result : e.1 = result
  written : e.2.sink.written = w.sink.written ++ bytes
  calls : e.2.calls = w.calls ++ calls

/-! ## A validation takes its course -/

variable {t : Temporary}

/-- An extraction makes its calls and ends as foretold. -/
theorem like_references (extractor : Extractor) (rs : Rules) (image : String) :
    Run.Like t (Extraction.references extractor rs image) (do
      modify fun w => { w with calls := w.calls ++ callsOf rs image t }
      ofExcept (extracted extractor rs image t)) := by
  intro w w' h
  have hcalls : (modify fun w =>
      { w with calls := w.calls ++ callsOf rs image t } : Run PUnit).exec w'
      = (.ok ⟨⟩, { w' with calls := w'.calls ++ callsOf rs image t }) := rfl
  rw [Run.exec_bind_ok hcalls, Run.exec_ofExcept, extracted]
  have hleft := h.left
  cases hd : t.entries with
  | none =>
      rw [← hleft] at hd
      rw [Extraction.exec_references_of_none hd, callsOf, ← hleft, hd, List.append_nil]
      exact ⟨rfl, h.sink, h.calls, rfl, h.right.trans hleft.symm⟩
  | some d =>
      rw [← hleft] at hd
      obtain ⟨events, hexec⟩ := Extraction.exec_references extractor rs image hd
      rw [hexec, callsOf, ← hleft, hd]
      exact ⟨rfl, h.sink, congrArg (· ++ _) h.calls, rfl, h.right.trans hleft.symm⟩

/-- Behind the extraction the notes are passed over. -/
private theorem like_conclusion (rs : Rules) (r : Required) (refs : References) :
    Run.Like t
      (do
        Run.writeLines (Report.referenceLines refs rs)
        let v := verdictOf r refs
        Run.note (remarks v)
        Run.writeLines (Report.resultLines v rs)
        return v)
      (do
        Run.write (conclusion r refs rs)
        return verdictOf r refs) := by
  simp only [conclusion, ← Run.write_bind_write, Run.writeLines_eq]
  -- the notes stand between two writes, so the second write is set apart first
  refine (Run.Like.write _).bind fun _ => ?_
  have hresults : Run.Like t
      (Run.write (Report.results (verdictOf r refs) rs) >>= fun _ => pure (verdictOf r refs))
      (Run.write (Report.results (verdictOf r refs) rs) >>= fun _ => pure (verdictOf r refs)) :=
    (Run.Like.write _).bind fun _ => Run.Like.pure _
  exact (Run.Like.note (remarks (verdictOf r refs))).bind fun _ => hresults

/-- Behind the flush. -/
private theorem like_leg (extractor : Extractor) (rs : Rules) (r : Required) :
    Run.Like t
      (do
        let refs ← Extraction.references extractor rs r.bundle.image
        Run.writeLines (Report.referenceLines refs rs)
        let v := verdictOf r refs
        Run.note (remarks v)
        Run.writeLines (Report.resultLines v rs)
        return v)
      (do
        modify fun w => { w with calls := w.calls ++ callsOf rs r.bundle.image t }
        match (extracted extractor rs r.bundle.image t).map fun refs =>
            (conclusion r refs rs, verdictOf r refs) with
        | .error f => throw f
        | .ok (after, v) => do
          Run.write after
          return v) := by
  have h := (like_references (t := t) extractor rs r.bundle.image).bind
    fun refs => like_conclusion rs r refs
  rw [bind_assoc] at h
  cases hx : extracted extractor rs r.bundle.image t with
  | error f =>
      rw [hx] at h
      exact h
  | ok refs =>
      rw [hx] at h
      exact h

/-- From a snapshot that was read. -/
private theorem like_validateOf (s : Snapshot) (extractor : Extractor) (rs : Rules) :
    Run.Like t
      (do
        Run.writeLines (Report.headerLines s)
        let r ← required s rs.profile
        Run.writeLines (Report.digestLines r)
        Run.writeLines (Report.targetLines r.bundle.image)
        Run.flush
        let refs ← Extraction.references extractor rs r.bundle.image
        Run.writeLines (Report.referenceLines refs rs)
        let v := verdictOf r refs
        Run.note (remarks v)
        Run.writeLines (Report.resultLines v rs)
        return v)
      (courseOf s extractor rs t).run := by
  rw [courseOf, required, Run.writeLines_eq]
  cases Required.resolve s s.stream rs.profile with
  | error absent =>
      dsimp only
      rw [Run.writeLines_eq, bind_assoc, Run.write_bind_write]
      exact (Run.Like.write _).bind fun _ => Run.Like.throw _
  | ok r =>
      dsimp only
      -- three blocks of lines on one side are one text on the other
      rw [pure_bind, Run.writeLines_eq, Run.writeLines_eq, Run.write_bind_write,
        Run.write_bind_write]
      exact (Run.Like.write _).bind fun _ => Run.Like.flush.bind fun _ => like_leg extractor rs r

/-- Whatever the sink does, a validation does what its course says. -/
theorem like_validate (raw : String) (extractor : Extractor) (rs : Rules) :
    Run.Like t (validate raw extractor rs) (course raw extractor rs t).run := by
  intro w w' h
  rw [validate, course]
  cases hread : (Snapshot.read raw).2 with
  | error f =>
      have hstart : (Run.recorded (Snapshot.read raw)).exec w
          = (.error f, w.noted (Snapshot.read raw).1) := by
        rw [Run.exec_recorded, hread]
      -- the course writes an empty text here, which every sink takes
      rw [Run.exec_bind_error hstart, Course.run, Run.exec_bind, Run.exec_write, Sink.write_empty]
      exact ⟨rfl, h.sink, h.calls, h.left, h.right⟩
  | ok s =>
      have hstart : (Run.recorded (Snapshot.read raw)).exec w
          = (.ok s, w.noted (Snapshot.read raw).1) := by
        rw [Run.exec_recorded, hread]
      rw [Run.exec_bind_ok hstart, Run.exec_bind_ok (Run.exec_note _ _)]
      exact like_validateOf s extractor rs _ _ ⟨h.sink, h.calls, h.left, h.right⟩

/-- Where its course ends, there ends the validation. -/
theorem ends_of_course {raw : String} {extractor : Extractor} {rs : Rules} {w w₀ : World}
    {result : Except Failure Verdict} {bytes : List UInt8} {calls : List Call}
    (h : Ends ((course raw extractor rs w.temporary).run.exec w) w₀ result bytes calls) :
    Ends ((validate raw extractor rs).exec w) w₀ result bytes calls := by
  obtain ⟨hresult, hworld⟩ := like_validate raw extractor rs w w (.refl w)
  exact ⟨hresult.trans h.result, (congrArg Sink.written hworld.sink).trans h.written,
    hworld.calls.trans h.calls⟩

/-- The snapshot of a text holds what the rules need. -/
structure Surveys (raw : String) (rs : Rules) (s : Snapshot) (r : Required) : Prop where
  read : (Snapshot.read raw).2 = .ok s
  resolved : Required.resolve s s.stream rs.profile = .ok r

section

variable {raw : String} {rs : Rules} {s : Snapshot} {r : Required}

/-- With all components there, the course leads to the extraction. -/
theorem course_of_surveys (extractor : Extractor) (t : Temporary) (h : Surveys raw rs s r) :
    course raw extractor rs t
    = ⟨preface s r, .ok ⟨callsOf rs r.bundle.image t,
      (extracted extractor rs r.bundle.image t).map fun refs =>
        (conclusion r refs rs, verdictOf r refs)⟩⟩ := by
  rw [course, h.read]
  dsimp only
  rw [courseOf, h.resolved]

/-- With components missing, the course ends with the report on them. -/
theorem course_of_missing (extractor : Extractor) (t : Temporary) {absent : List String}
    (hread : (Snapshot.read raw).2 = .ok s)
    (hmissing : Required.resolve s s.stream rs.profile = .error absent) :
    course raw extractor rs t
    = ⟨Report.header s ++ Report.missingComponents absent s.names,
      .error (.missingComponents absent s.names)⟩ := by
  rw [course, hread]
  dsimp only
  rw [courseOf, hmissing]

/-- Otherwise it ends before. -/
theorem course_of_not_surveys (extractor : Extractor) (t : Temporary)
    (h : ¬ ∃ s r, Surveys raw rs s r) :
    ∃ f, (course raw extractor rs t).rest = .error f := by
  rw [course]
  cases hread : (Snapshot.read raw).2 with
  | error f => exact ⟨f, rfl⟩
  | ok s =>
      dsimp only
      rw [courseOf]
      cases hresolved : Required.resolve s s.stream rs.profile with
      | error absent => exact ⟨_, rfl⟩
      | ok r => exact absurd ⟨s, r, hread, hresolved⟩ h

end

/-! ## What becomes of a course -/

namespace Course

variable {c : Course} {w : World}

/-- Whatever the sink does, a verdict is the one that the course foretells. -/
theorem result_of_exec_ok {v : Verdict} (h : (c.run.exec w).1 = .ok v) : c.result = .ok v := by
  obtain ⟨_, w₁, -, h⟩ := Run.exec_bind_eq_ok h
  rw [result]
  cases hrest : c.rest with
  | error f =>
      rw [hrest] at h
      cases h
  | ok leg =>
      rw [hrest] at h
      obtain ⟨_, w₂, -, h⟩ := Run.exec_bind_eq_ok h
      obtain ⟨_, w₃, -, h⟩ := Run.exec_bind_eq_ok h
      dsimp only at h ⊢
      cases hending : leg.ending with
      | error f =>
          rw [hending] at h
          cases h
      | ok pair =>
          rw [hending] at h
          obtain ⟨_, w₄, -, h⟩ := Run.exec_bind_eq_ok h
          exact h

/-- A course that ends before the flush. -/
theorem exec_run_of_error {f : Failure} (hrest : c.rest = .error f)
    (hbefore : w.sink.Takes c.before) : c.run.exec w = (.error f, w.wrote c.before) := by
  rw [run, Run.exec_bind_ok (Run.exec_write_of_takes hbefore), hrest]
  rfl

/-- A course behind its flush. -/
theorem exec_run_of_flushes {leg : Leg} (hrest : c.rest = .ok leg)
    (hbefore : w.sink.Takes c.before) (hflush : w.sink.flushFails = false) :
    c.run.exec w = (match leg.ending with
        | .error f => throw f
        | .ok (after, v) => do
          Run.write after
          return v : Run Verdict).exec
      { w.wrote c.before with calls := w.calls ++ leg.calls } := by
  have hgood : Run.flush.exec (w.wrote c.before) = (.ok (), w.wrote c.before) := by
    rw [Run.exec_flush]
    exact congrArg (·, _) (if_neg (Bool.eq_false_iff.mp hflush))
  rw [run, Run.exec_bind_ok (Run.exec_write_of_takes hbefore), hrest]
  exact Run.exec_bind_ok hgood

/-- Without a flush on the course it does not matter whether flushing fails. -/
theorem ends_of_error {f : Failure} (hrest : c.rest = .error f) (htext : w.sink.Takes c.text) :
    Ends (c.run.exec w) w c.result (Text.encode c.text) c.calls := by
  have hafter : c.after = "" := by
    rw [after, hrest]
  have htext' : c.text = c.before := by
    rw [text, hafter, String.append_empty]
  rw [htext'] at htext ⊢
  rw [exec_run_of_error hrest htext, result, calls, hrest]
  exact ⟨rfl, rfl, (List.append_nil _).symm⟩

/-- The sink has room for all that is written: the course is taken to its end. -/
theorem ends_of_takes (htext : w.sink.Takes c.text) (hflush : w.sink.flushFails = false) :
    Ends (c.run.exec w) w c.result (Text.encode c.text) c.calls := by
  cases hrest : c.rest with
  | error f => exact ends_of_error hrest htext
  | ok leg =>
      obtain ⟨hbefore, hafter⟩ := (Sink.takes_append ..).mp htext
      rw [after, hrest] at hafter
      rw [exec_run_of_flushes hrest hbefore hflush, text, Text.encode_append, after, result, calls,
        hrest]
      dsimp only at hafter ⊢
      cases hending : leg.ending with
      | error f =>
          dsimp only
          rw [Text.encode_empty, List.append_nil]
          exact ⟨rfl, rfl, rfl⟩
      | ok pair =>
          rw [hending] at hafter
          dsimp only at hafter ⊢
          rw [Run.exec_bind_ok (Run.exec_write_of_takes hafter)]
          exact ⟨rfl, List.append_assoc .., rfl⟩

/-- The sink has no room for all that is written: the run ends with the last byte that fits. -/
theorem ends_of_cut {k : Nat} (hlimit : w.sink.limit = some (w.sink.written.length + k))
    (hcut : k < (Text.encode c.text).length) (hflush : w.sink.flushFails = false) :
    Ends (c.run.exec w) w (.error (.io Sink.limitReason)) ((Text.encode c.text).take k)
      (if k < (Text.encode c.before).length then [] else c.calls) := by
  rw [text, Text.encode_append] at hcut ⊢
  -- the room ends before the flush, or in the text behind it
  by_cases hbefore : k < (Text.encode c.before).length
  · rw [if_pos hbefore, run, Run.exec_bind_error (Run.exec_write_of_cut hlimit hbefore),
      List.take_append_of_le_length (Nat.le_of_lt hbefore)]
    exact ⟨rfl, rfl, (List.append_nil _).symm⟩
  · have htakes : w.sink.Takes c.before := Sink.takes_of_limit hlimit (Nat.le_of_not_lt hbefore)
    rw [if_neg hbefore, List.take_append, List.take_of_length_le (Nat.le_of_not_lt hbefore)]
    rw [List.length_append, after] at hcut
    rw [after, calls]
    cases hrest : c.rest with
    | error f =>
        rw [hrest, Text.encode_empty, List.length_nil] at hcut
        omega
    | ok leg =>
        rw [hrest] at hcut
        dsimp only at hcut ⊢
        rw [exec_run_of_flushes hrest htakes hflush]
        cases hending : leg.ending with
        | error f =>
            rw [hending, Text.encode_empty, List.length_nil] at hcut
            omega
        | ok pair =>
            rw [hending] at hcut
            dsimp only at hcut ⊢
            -- the first text is taken, so this much room is left for the second
            have hroom : (w.sink.took (Text.encode c.before)).limit
                = some ((w.sink.took (Text.encode c.before)).written.length
                  + (k - (Text.encode c.before).length)) := by
              rw [Sink.took_limit, hlimit, Sink.took_written, List.length_append]
              refine congrArg some ?_
              omega
            rw [Run.exec_bind_error (Run.exec_write_of_cut hroom (by omega))]
            exact ⟨rfl, List.append_assoc .., rfl⟩

/-- The flush fails: the course is left there. -/
theorem ends_of_flushFails {leg : Leg} (hrest : c.rest = .ok leg)
    (hbefore : w.sink.Takes c.before) (hflush : w.sink.flushFails = true) :
    Ends (c.run.exec w) w (.error (.io Sink.flushReason)) (Text.encode c.before) [] := by
  have hfails : Run.flush.exec (w.wrote c.before)
      = (.error (.io Sink.flushReason), w.wrote c.before) := by
    rw [Run.exec_flush]
    exact congrArg (·, _) (if_pos hflush)
  rw [run, Run.exec_bind_ok (Run.exec_write_of_takes hbefore), hrest]
  dsimp only
  rw [Run.exec_bind_error hfails]
  exact ⟨rfl, rfl, (List.append_nil _).symm⟩

end Course

/-- Where writing never fails, a course that is known tells all. -/
theorem ends_of_course_eq {raw : String} {extractor : Extractor} {rs : Rules} {w : World}
    (hw : w.Writable) {c : Course} {text : String}
    (hcourse : course raw extractor rs w.temporary = c) (htext : c.text = text) :
    Ends ((validate raw extractor rs).exec w) w c.result (Text.encode text) c.calls := by
  rw [← htext, ← hcourse]
  exact ends_of_course
    (Course.ends_of_takes (Sink.takes_of_no_limit hw.unlimited _) hw.flushes)

end Validation

end ReleaseGate
