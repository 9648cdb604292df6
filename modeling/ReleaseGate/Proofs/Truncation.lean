import ReleaseGate.Proofs.Course

/-!
# A failing sink cuts the report and nothing else

A validation meets its sink when it writes and when it flushes, and it ends at the first failure
there. So a sink that takes too little leaves the beginning of the report, as long as it can be, and
the extractor is called only when all before it was written and flushed.
-/

namespace ReleaseGate

/-- The world with another limit on its sink, and another answer when it is flushed. -/
def World.through (w : World) (limit : Option Nat) (flushFails : Bool) : World :=
  { w with sink := ⟨w.sink.written, limit, flushFails⟩ }

namespace Validation

/-- The course is the same for every sink, and so is the world that a run is seen against. -/
private theorem ends_through {raw : String} {extractor : Extractor} {rs : Rules} {w : World}
    {limit : Option Nat} {flushFails : Bool} {result : Except Failure Verdict}
    {bytes : List UInt8} {calls : List Call}
    (h : Ends ((course raw extractor rs w.temporary).run.exec (w.through limit flushFails))
      (w.through limit flushFails) result bytes calls) :
    Ends ((validate raw extractor rs).exec (w.through limit flushFails)) w result bytes calls := by
  obtain ⟨hresult, hwritten, hcalls⟩ := ends_of_course (w := w.through limit flushFails) h
  exact ⟨hresult, hwritten, hcalls⟩

/-- A sink that takes `k` more bytes, against one that takes all, and against one that takes all and
fails when it is flushed. -/
theorem sink_failure_truncates (raw : String) (extractor : Extractor) (rs : Rules) (w : World)
    (k : Nat) :
    ∃ result output calls,
      Ends ((validate raw extractor rs).exec (w.through none false)) w result output calls
      ∧ (output.length ≤ k → Ends ((validate raw extractor rs).exec
          (w.through (some (w.sink.written.length + k)) false)) w result output calls)
      ∧ (k < output.length → ∃ made, Ends ((validate raw extractor rs).exec
            (w.through (some (w.sink.written.length + k)) false)) w
          (.error (.io Sink.limitReason)) (output.take k) made
        ∧ (Failure.io Sink.limitReason).exitStatus = 2
        ∧ (∀ s r, Surveys raw rs s r → made =
          if k < (Text.encode (Report.header s ++ Report.digests r
            ++ Report.target r.bundle.image)).length then [] else calls)
        ∧ ((¬ ∃ s r, Surveys raw rs s r) → made = calls))
      ∧ (∀ s r, Surveys raw rs s r → Ends ((validate raw extractor rs).exec (w.through none true)) w
          (.error (.io Sink.flushReason)) (Text.encode (Report.header s ++ Report.digests r
            ++ Report.target r.bundle.image)) [])
      ∧ ((¬ ∃ s r, Surveys raw rs s r) → calls = [] ∧
          Ends ((validate raw extractor rs).exec (w.through none true)) w result output calls) := by
  let c := course raw extractor rs w.temporary
  have hnone : ∀ h : ¬ ∃ s r, Surveys raw rs s r, c.calls = [] := by
    intro h
    obtain ⟨f, hrest⟩ := course_of_not_surveys extractor w.temporary h
    show Course.calls (course raw extractor rs w.temporary) = []
    rw [Course.calls, hrest]
  refine ⟨c.result, Text.encode c.text, c.calls, ?_, ?_, ?_, ?_, ?_⟩
  · exact ends_through (Course.ends_of_takes (Sink.takes_of_no_limit rfl _) rfl)
  · -- there is room for all
    intro hfit
    exact ends_through (Course.ends_of_takes (Sink.takes_of_limit (k := k) rfl hfit) rfl)
  · -- the report is cut, before the flush or behind it
    intro hcut
    refine ⟨_, ends_through (Course.ends_of_cut rfl hcut rfl), rfl, ?_, ?_⟩
    · intro s r h
      have hbefore : c.before = preface s r := congrArg Course.before (course_of_surveys _ _ h)
      show (if k < (Text.encode c.before).length then _ else _) = _
      rw [hbefore, preface]
    · intro h
      show (if k < (Text.encode c.before).length then [] else c.calls) = c.calls
      rw [hnone h, ite_self]
  · -- the flush is reached and fails
    intro s r h
    have hcourse := course_of_surveys extractor w.temporary h
    have hbefore : c.before = preface s r := congrArg Course.before hcourse
    have hends := Course.ends_of_flushFails (w := w.through none true)
      (congrArg Course.rest hcourse) (Sink.takes_of_no_limit rfl _) rfl
    rw [← preface, ← hbefore]
    exact ends_through hends
  · -- the run ends before the flush
    intro h
    obtain ⟨f, hrest⟩ := course_of_not_surveys extractor w.temporary h
    exact ⟨hnone h, ends_through (Course.ends_of_error hrest (Sink.takes_of_no_limit rfl _))⟩

end Validation

end ReleaseGate
