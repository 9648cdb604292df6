import ReleaseGate.CommandLine
import ReleaseGate.Proofs.Verdicts

/-!
# Replies — what a run of the program comes to

A run is stopped at its profile, prints it, is stopped at its snapshot, or validates. Each of these
ways is told by what the surroundings hold, and each has one conclusion: its exit status, and the
trouble that stopped it if there is one. The message walks the chain of causes from the outside in
and ends with the first failure. What lies beneath a failure is already in the words of the failure.
-/

namespace ReleaseGate

/-! ## The failures of a profile -/

/-- A rule that does not compile aborts a run. -/
theorem Profile.exitStatus_of_compileRule {regex : Pattern.Compiler} {before : List String}
    {r : Rule} {f : Failure} (h : compileRule regex before r = .error f) :
    f.exitStatus = exitAborted := by
  rw [compileRule] at h
  split at h
  · exact Except.error.inj h ▸ rfl
  split at h
  · exact Except.error.inj h ▸ rfl
  split at h
  · exact Except.error.inj h ▸ rfl
  split at h
  · exact Except.error.inj h ▸ rfl
  split at h
  · cases h
  · exact Except.error.inj h ▸ rfl

/-- So do rules of which one does not compile. -/
theorem Profile.exitStatus_of_compileRules {regex : Pattern.Compiler} (rules : List Rule) :
    ∀ (before : List String) (f : Failure), compileRules regex before rules = .error f →
      f.exitStatus = exitAborted := by
  induction rules with
  | nil =>
      intro before f h
      cases h
  | cons r rules ih =>
      intro before f h
      rw [compileRules, bind_eq_error] at h
      obtain hr | ⟨p, -, h⟩ := h
      · exact exitStatus_of_compileRule hr
      · obtain hrest | ⟨compiled, -, h⟩ := bind_eq_error.mp h
        · exact ih _ _ hrest
        · cases h

/-- A profile that does not compile aborts a run. -/
theorem Profile.exitStatus_of_compile {regex : Pattern.Compiler} {p : Profile} {f : Failure}
    (h : p.compile regex = .error f) : f.exitStatus = exitAborted := by
  rw [compile] at h
  cases hdefect : p.defect? with
  | some d =>
      rw [hdefect] at h
      exact Except.error.inj h ▸ rfl
  | none =>
      rw [hdefect] at h
      cases hrules : compileRules regex [] p.roles with
      | error f' =>
          rw [hrules] at h
          have hf : f' = f := Except.error.inj h
          exact hf ▸ exitStatus_of_compileRules p.roles _ _ hrules
      | ok compiled =>
          rw [hrules] at h
          cases h

/-- A text that is no profile aborts a run. -/
theorem Profile.exitStatus_of_ofYaml {text : String} {f : Failure} (h : ofYaml text = .error f) :
    f.exitStatus = exitAborted := by
  rw [ofYaml] at h
  cases hread : Yaml.Form.readText form text.toList with
  | error fault =>
      rw [hread] at h
      exact Except.error.inj h ▸ rfl
  | ok p =>
      rw [hread] at h
      cases h

/-- A file without text aborts a run. -/
theorem Profile.exitStatus_of_textOf {content : Except FileFault (List UInt8)} {f : Failure}
    (h : textOf content = .error f) : f.exitStatus = exitAborted := by
  rw [textOf.eq_def] at h
  cases content with
  | error fault => exact Except.error.inj h ▸ rfl
  | ok bytes =>
      dsimp only at h
      cases hdecode : Text.decode? bytes with
      | none =>
          rw [hdecode] at h
          exact Except.error.inj h ▸ rfl
      | some text =>
          rw [hdecode] at h
          cases h

/-- A profile file that cannot be loaded aborts a run. -/
theorem Profile.exitStatus_of_load {path : String} {content : Except FileFault (List UInt8)}
    {f : Failure} (h : (load path content).2 = .error f) : f.exitStatus = exitAborted := by
  obtain htext | ⟨text, -, hyaml⟩ := bind_eq_error.mp (h : textOf content >>= ofYaml = .error f)
  · exact exitStatus_of_textOf htext
  · exact exitStatus_of_ofYaml hyaml

/-! ## Causes -/

/-- The text of the error that lies beneath a failure, where there is one. -/
def Failure.beneath? : Failure → Option String
  | io reason => some reason
  | json fault => some fault.message
  | invalidPattern _ reason => some reason
  | yaml fault => some fault.message
  | _ => none

/-- A failure ends its own message with what lies beneath it. -/
theorem Failure.message_of_beneath {f : Failure} {text : String} (h : f.beneath? = some text) :
    ∃ opening, f.message = opening ++ text := by
  cases f with
  | io reason => exact ⟨"IO error: ", Option.some.inj h ▸ rfl⟩
  | json fault => exact ⟨"Invalid JSON: ", Option.some.inj h ▸ rfl⟩
  | invalidPattern role reason =>
      exact ⟨"Invalid pattern for " ++ role ++ ": ", Option.some.inj h ▸ rfl⟩
  | yaml fault => exact ⟨"YAML error: ", Option.some.inj h ▸ rfl⟩
  | _ => cases h

namespace Text

theorem joined_singleton (separator a : String) : joined separator [a] = a := rfl

theorem joined_pair (separator a b : String) : joined separator [a, b] = a ++ separator ++ b := rfl

end Text

namespace CommandLine

/-- One cause in the chain of what stopped a run. -/
inductive Cause where
  /-- What was being done, or an error that is no failure. -/
  | words (text : String)
  | failure (f : Failure)

/-- A failure and what lies beneath it. -/
def causesOf (f : Failure) : List Cause :=
  .failure f :: f.beneath?.toList.map .words

/-- The chain of causes of a trouble, from the outside in. -/
def Trouble.chain : Trouble → List Cause
  | profileNotLoaded path f =>
    .words ("Failed to load extraction profile " ++ Text.quoted path) :: causesOf f
  | snapshotNotRead reason => [.words "Failed to read snapshot from stdin", .words reason]
  | noSnapshot =>
    [.words "No snapshot provided\nProvide via --snapshot argument, SNAPSHOT env var, or stdin"]
  | failed f => causesOf f

/-- What is told of a chain: each cause down to the first failure, and that one as the last. -/
inductive Tells : List Cause → List String → Prop where
  | failure (contexts : List String) (f : Failure) (beneath : List Cause) :
      Tells (contexts.map .words ++ .failure f :: beneath) (contexts ++ [f.message])
  | words (texts : List String) : Tells (texts.map .words) texts

/-- The message of a trouble is what its chain tells. -/
theorem Trouble.message_eq (trouble : Trouble) :
    ∃ parts, Tells trouble.chain parts ∧ trouble.message = Text.joined ": " parts := by
  cases trouble with
  | profileNotLoaded path f =>
      refine ⟨["Failed to load extraction profile " ++ Text.quoted path, f.message],
        .failure ["Failed to load extraction profile " ++ Text.quoted path] f _, ?_⟩
      rw [message.eq_def, Text.joined_pair]
  | snapshotNotRead reason =>
      have hwords : "Failed to read snapshot from stdin: "
          = "Failed to read snapshot from stdin" ++ ": " := by simp only [String.reduceAppend]
      refine ⟨["Failed to read snapshot from stdin", reason],
        .words ["Failed to read snapshot from stdin", reason], ?_⟩
      rw [message.eq_def, Text.joined_pair, ← hwords]
  | noSnapshot => exact ⟨_, .words [_], (Text.joined_singleton ": " _).symm⟩
  | failed f => exact ⟨[f.message], .failure [] f _, (Text.joined_singleton ": " f.message).symm⟩

/-- The status that belongs to a chain: that of its first failure, or that of an aborted run. -/
inductive Exits : List Cause → Nat → Prop where
  | failure (contexts : List String) (f : Failure) (beneath : List Cause) :
      Exits (contexts.map .words ++ .failure f :: beneath) f.exitStatus
  | words (texts : List String) : Exits (texts.map .words) exitAborted

/-- The status of a trouble belongs to its chain. -/
theorem Trouble.exits_exitStatus (trouble : Trouble) : Exits trouble.chain trouble.exitStatus := by
  cases trouble with
  | profileNotLoaded path f =>
      exact .failure ["Failed to load extraction profile " ++ Text.quoted path] f _
  | snapshotNotRead reason => exact .words ["Failed to read snapshot from stdin", reason]
  | noSnapshot => exact .words [_]
  | failed f => exact .failure [] f _

/-! ## What the surroundings hold -/

/-- The profile to work with, when files have the given content. -/
def profileIn (content : String → Except FileFault (List UInt8)) :
    Option String → Except Failure Profile
  | none => .ok .builtIn
  | some path => (Profile.load path (content path)).2

/-- The notes on loading the profile. -/
def notesOn : Option String → List Event
  | none => []
  | some path => [Profile.loading path]

section

variable {m : Type → Type} [Monad m] {t : Surroundings m} {o : Options}
  {content : String → Except FileFault (List UInt8)}

/-- The profile file has the given content, and reading it does nothing else. -/
def Holds (t : Surroundings m) (content : String → Except FileFault (List UInt8))
    (file : Option String) : Prop :=
  ∀ path, file = some path → t.file path = pure (content path)

/-- Without a profile nothing more is asked of the surroundings. -/
theorem conclude_of_unloaded [LawfulMonad m] {f : Failure} (ht : Holds t content o.profile)
    (h : profileIn content o.profile = .error f) :
    ∃ path, o.profile = some path ∧ conclude t o
      = pure ⟨notesOn o.profile, "", [], .error (.profileNotLoaded path f)⟩ := by
  cases hfile : o.profile with
  | none =>
      rw [hfile] at h
      cases h
  | some path =>
      rw [hfile] at h
      refine ⟨path, rfl, ?_⟩
      have hload : Profile.load path (content path) = ([Profile.loading path], .error f) :=
        congrArg (Prod.mk _) h
      rw [conclude, hfile, loadProfile, ht path hfile, pure_bind, hload, pure_bind]
      exact pure_bind _ _

/-- With a profile the run goes on. -/
theorem conclude_of_loaded [LawfulMonad m] {p : Profile} (ht : Holds t content o.profile)
    (h : profileIn content o.profile = .ok p) :
    conclude t o = runWith t o p >>= fun c =>
      pure { c with events := notesOn o.profile ++ c.events } := by
  cases hfile : o.profile with
  | none =>
      rw [hfile] at h
      rw [conclude, hfile, loadProfile, pure_bind, ← Except.ok.inj h]
      rfl
  | some path =>
      rw [hfile] at h
      have hload : Profile.load path (content path) = ([Profile.loading path], .ok p) :=
        congrArg (Prod.mk _) h
      rw [conclude, hfile, loadProfile, ht path hfile, pure_bind, hload, pure_bind]
      rfl

theorem runWith_of_printing (p : Profile) (h : o.printProfile = true) :
    runWith t o p = pure ⟨[], p.toYaml, [], .ok exitPassed⟩ := by
  rw [runWith, if_pos h]

theorem runWith_of_uncompiled {p : Profile} {f : Failure} (h : o.printProfile = false)
    (hp : p.compile = .error f) : runWith t o p = pure (.stopped (.failed f)) := by
  rw [runWith, if_neg (Bool.eq_false_iff.mp h), hp]

/-- The snapshot that the surroundings give. -/
theorem readSnapshot_eq (s : Surroundings Id) (flag : Option String) :
    readSnapshot s flag = match Input.snapshot flag s.environment s.stdin with
      | .error reason => .error (.snapshotNotRead reason)
      | .ok none => .error .noSnapshot
      | .ok (some raw) => .ok raw := by
  -- the standard input is asked for just when it makes a difference
  have hstdin : Input.snapshot flag s.environment
      (if (Input.beforeStdin flag s.environment).isSome then none else s.stdin)
      = Input.snapshot flag s.environment s.stdin := by
    rw [Input.snapshot.eq_def, Input.snapshot.eq_def]
    cases Input.beforeStdin flag s.environment with
    | none => rfl
    | some text => rfl
  rw [← hstdin]
  show (if (Input.beforeStdin flag s.environment).isSome then _ else _ : Id _) = _
  by_cases hbefore : (Input.beforeStdin flag s.environment).isSome
  · rw [if_pos hbefore, if_pos hbefore]
    rfl
  · rw [if_neg hbefore, if_neg hbefore]
    rfl

end

/-! ## Ways of a run -/

/-- A run comes to the validation of a text by rules. -/
structure Validates (s : Surroundings Id) (o : Options) (rs : Rules) (raw : String) : Prop where
  notPrinting : o.printProfile = false
  compiled : ∃ p, profileIn s.file o.profile = .ok p ∧ p.compile = .ok rs
  given : Input.snapshot o.snapshot s.environment s.stdin = .ok (some raw)

/-- What the validation of a text by rules comes to. -/
def verdictOn (s : Surroundings Id) (o : Options) (rs : Rules) (raw : String) :
    Except Failure Verdict :=
  ((Validation.validate raw (s.tool o.tool).extractor rs).exec
    ⟨Sink.unlimited, s.temporary, [], []⟩).1

/-- What a run comes to: an exit status, or the trouble that stops it. -/
inductive ComesTo (s : Surroundings Id) (o : Options) : Except Trouble Nat → Prop where
  | unloaded (path : String) (f : Failure) : o.profile = some path →
      profileIn s.file o.profile = .error f → ComesTo s o (.error (.profileNotLoaded path f))
  | printed (p : Profile) : profileIn s.file o.profile = .ok p → o.printProfile = true →
      ComesTo s o (.ok exitPassed)
  | uncompiled (p : Profile) (f : Failure) : profileIn s.file o.profile = .ok p →
      o.printProfile = false → p.compile = .error f → ComesTo s o (.error (.failed f))
  | unread (p : Profile) (rs : Rules) (reason : String) : profileIn s.file o.profile = .ok p →
      o.printProfile = false → p.compile = .ok rs →
      Input.snapshot o.snapshot s.environment s.stdin = .error reason →
      ComesTo s o (.error (.snapshotNotRead reason))
  | absent (p : Profile) (rs : Rules) : profileIn s.file o.profile = .ok p →
      o.printProfile = false → p.compile = .ok rs →
      Input.snapshot o.snapshot s.environment s.stdin = .ok none →
      ComesTo s o (.error .noSnapshot)
  | judged (rs : Rules) (raw : String) (v : Verdict) : Validates s o rs raw →
      verdictOn s o rs raw = .ok v → ComesTo s o (.ok v.exitStatus)
  | failed (rs : Rules) (raw : String) (f : Failure) : Validates s o rs raw →
      verdictOn s o rs raw = .error f → ComesTo s o (.error (.failed f))

section

variable {s : Surroundings Id} {o : Options}

/-- A run in surroundings that can be asked at any time. -/
theorem result_conclude {p : Profile} (h : profileIn s.file o.profile = .ok p) :
    (conclude s o).result = (runWith s o p).result := by
  rw [conclude_of_loaded (t := s) (fun _ _ => rfl) h]
  rfl

/-- A run with rules ends at its snapshot or in a validation. -/
theorem runWith_of_compiled {p : Profile} {rs : Rules} (h : o.printProfile = false)
    (hp : p.compile = .ok rs) :
    runWith s o p = match readSnapshot s o.snapshot with
      | .error trouble => .stopped trouble
      | .ok raw => validation raw (s.tool o.tool) s.temporary rs := by
  rw [runWith, if_neg (Bool.eq_false_iff.mp h), hp]
  rfl

theorem result_validation (rs : Rules) (raw : String) :
    (validation raw (s.tool o.tool) s.temporary rs).result
      = match verdictOn s o rs raw with
        | .ok v => .ok v.exitStatus
        | .error f => .error (.failed f) := by
  rw [verdictOn, Run.exec, validation]
  cases (Validation.validate raw (s.tool o.tool).extractor rs).run
      ⟨Sink.unlimited, s.temporary, [], []⟩ with
  | mk result w =>
      cases result with
      | ok v => rfl
      | error f => rfl

theorem result_of_validates {rs : Rules} {raw : String} (h : Validates s o rs raw) :
    (conclude s o).result
      = match verdictOn s o rs raw with
        | .ok v => .ok v.exitStatus
        | .error f => .error (.failed f) := by
  obtain ⟨p, hp, hrs⟩ := h.compiled
  rw [result_conclude hp, runWith_of_compiled h.notPrinting hrs, readSnapshot_eq, h.given]
  exact result_validation rs raw

/-- A run has one conclusion. -/
theorem ComesTo.result_eq {r : Except Trouble Nat} (h : ComesTo s o r) :
    (conclude s o).result = r := by
  cases h with
  | unloaded path f hpath hf =>
      obtain ⟨path', hpath', h⟩ := conclude_of_unloaded (t := s) (fun _ _ => rfl) hf
      rw [h, Option.some.inj (hpath.symm.trans hpath')]
      rfl
  | printed p hp hprint =>
      rw [result_conclude hp, runWith_of_printing p hprint]
      rfl
  | uncompiled p f hp hprint hf =>
      rw [result_conclude hp, runWith_of_uncompiled hprint hf]
      rfl
  | unread p rs reason hp hprint hrs hsnapshot =>
      rw [result_conclude hp, runWith_of_compiled hprint hrs, readSnapshot_eq, hsnapshot]
      rfl
  | absent p rs hp hprint hrs hsnapshot =>
      rw [result_conclude hp, runWith_of_compiled hprint hrs, readSnapshot_eq, hsnapshot]
      rfl
  | judged rs raw v hvalidates hv => rw [result_of_validates hvalidates, hv]
  | failed rs raw f hvalidates hf => rw [result_of_validates hvalidates, hf]

/-- Every run comes to something. -/
theorem exists_comesTo (s : Surroundings Id) (o : Options) : ∃ r, ComesTo s o r := by
  cases hp : profileIn s.file o.profile with
  | error f =>
      obtain ⟨path, hpath, -⟩ := conclude_of_unloaded (t := s) (fun _ _ => rfl) hp
      exact ⟨_, .unloaded path f hpath hp⟩
  | ok p =>
      cases hprint : o.printProfile with
      | true => exact ⟨_, .printed p hp hprint⟩
      | false =>
          cases hrs : p.compile with
          | error f => exact ⟨_, .uncompiled p f hp hprint hrs⟩
          | ok rs =>
              match hsnapshot : Input.snapshot o.snapshot s.environment s.stdin with
              | .error reason => exact ⟨_, .unread p rs reason hp hprint hrs hsnapshot⟩
              | .ok none => exact ⟨_, .absent p rs hp hprint hrs hsnapshot⟩
              | .ok (some raw) =>
                  have h : Validates s o rs raw := ⟨hprint, ⟨p, hp, hrs⟩, hsnapshot⟩
                  cases hv : verdictOn s o rs raw with
                  | ok v => exact ⟨_, .judged rs raw v h hv⟩
                  | error f => exact ⟨_, .failed rs raw f h hv⟩

end

/-! ## Exit statuses -/

/-- The profile is printed, or all roles match. -/
inductive Succeeds (s : Surroundings Id) (o : Options) : Prop where
  | printed (p : Profile) : profileIn s.file o.profile = .ok p → o.printProfile = true →
      Succeeds s o
  | passed (rs : Rules) (raw : String) (v : Verdict) : Validates s o rs raw →
      verdictOn s o rs raw = .ok v → (∀ r ∈ v.outcomes, r.outcome = .same) → Succeeds s o

/-- A role does not match, or components are missing. -/
inductive Fails (s : Surroundings Id) (o : Options) : Prop where
  | verdict (rs : Rules) (raw : String) (v : Verdict) : Validates s o rs raw →
      verdictOn s o rs raw = .ok v → (∃ r ∈ v.outcomes, r.outcome ≠ .same) → Fails s o
  | incomplete (rs : Rules) (raw : String) (absent available : List String) :
      Validates s o rs raw → verdictOn s o rs raw = .error (.missingComponents absent available) →
      Fails s o

/-- The exit status for what a run comes to. -/
def statusOf : Except Trouble Nat → Nat
  | .ok status => status
  | .error trouble => trouble.exitStatus

theorem statusOf_result (c : Conclusion) : c.exitStatus = statusOf c.result := by
  rw [Conclusion.exitStatus]
  cases c.result with
  | ok status => rfl
  | error trouble => rfl

section

variable {s : Surroundings Id} {o : Options}

/-- A run passes, fails or is aborted. -/
theorem ComesTo.statusOf_cases {r : Except Trouble Nat} (h : ComesTo s o r) :
    (statusOf r = exitPassed ∧ Succeeds s o) ∨ (statusOf r = exitFailed ∧ Fails s o)
      ∨ statusOf r = exitAborted ∧ ∃ trouble, r = .error trouble := by
  cases h with
  | unloaded path f hpath hf =>
      rw [hpath] at hf
      exact .inr (.inr ⟨Profile.exitStatus_of_load hf, _, rfl⟩)
  | printed p hp hprint => exact .inl ⟨rfl, .printed p hp hprint⟩
  | uncompiled p f hp hprint hf => exact .inr (.inr ⟨Profile.exitStatus_of_compile hf, _, rfl⟩)
  | unread p rs reason hp hprint hrs hsnapshot => exact .inr (.inr ⟨rfl, _, rfl⟩)
  | absent p rs hp hprint hrs hsnapshot => exact .inr (.inr ⟨rfl, _, rfl⟩)
  | judged rs raw v hvalidates hv =>
      by_cases hall : ∀ r ∈ v.outcomes, r.outcome = .same
      · refine .inl ⟨?_, .passed rs raw v hvalidates hv hall⟩
        rw [statusOf, Verdict.exitStatus, if_pos (v.passed_iff.mpr hall)]
      · refine .inr (.inl ⟨?_, .verdict rs raw v hvalidates hv ?_⟩)
        · rw [statusOf, Verdict.exitStatus, if_neg (mt v.passed_iff.mp hall)]
        · simpa only [not_forall, exists_prop] using hall
  | failed rs raw f hvalidates hf =>
      cases f with
      | missingComponents absent available =>
          exact .inr (.inl ⟨rfl, .incomplete rs raw absent available hvalidates hf⟩)
      | _ => exact .inr (.inr ⟨rfl, _, rfl⟩)

theorem Succeeds.statusOf_eq (h : Succeeds s o) : statusOf (conclude s o).result = exitPassed := by
  cases h with
  | printed p hp hprint => rw [(ComesTo.printed p hp hprint).result_eq, statusOf]
  | passed rs raw v hvalidates hv hall =>
      rw [(ComesTo.judged rs raw v hvalidates hv).result_eq, statusOf, Verdict.exitStatus,
        if_pos (v.passed_iff.mpr hall)]

theorem Fails.statusOf_eq (h : Fails s o) : statusOf (conclude s o).result = exitFailed := by
  cases h with
  | verdict rs raw v hvalidates hv hsome =>
      obtain ⟨r, hr, hdiffers⟩ := hsome
      rw [(ComesTo.judged rs raw v hvalidates hv).result_eq, statusOf, Verdict.exitStatus,
        if_neg fun hpassed => hdiffers (v.passed_iff.mp hpassed r hr)]
  | incomplete rs raw absent available hvalidates hf =>
      rw [(ComesTo.failed rs raw _ hvalidates hf).result_eq]
      rfl

/-- A run passes or fails just when it should, and is aborted otherwise. -/
theorem statusOf_conclude (s : Surroundings Id) (o : Options) :
    (statusOf (conclude s o).result = exitPassed ↔ Succeeds s o)
      ∧ (statusOf (conclude s o).result = exitFailed ↔ Fails s o)
      ∧ (¬ Succeeds s o → ¬ Fails s o → statusOf (conclude s o).result = exitAborted) := by
  obtain ⟨r, h⟩ := exists_comesTo s o
  have hcases := h.statusOf_cases
  rw [← h.result_eq] at hcases
  refine ⟨⟨fun hstatus => ?_, Succeeds.statusOf_eq⟩, ⟨fun hstatus => ?_, Fails.statusOf_eq⟩, ?_⟩
  · rw [hstatus] at hcases
    obtain ⟨-, h⟩ | ⟨h, -⟩ | ⟨h, -⟩ := hcases
    · exact h
    · cases h
    · cases h
  · rw [hstatus] at hcases
    obtain ⟨h, -⟩ | ⟨-, h⟩ | ⟨h, -⟩ := hcases
    · cases h
    · exact h
    · cases h
  · intro hpasses hfails
    obtain ⟨-, h⟩ | ⟨-, h⟩ | ⟨h, -⟩ := hcases
    · exact absurd h hpasses
    · exact absurd h hfails
    · exact h

/-! ## Error outputs -/

/-- Events as they are printed, one on each line. -/
def linesOf (events : List Event) : String :=
  String.join (events.map fun e => e.printed ++ "\n")

/-- The error output of a run that is not aborted shows events only. -/
theorem complaint_of_not_aborted {c : Conclusion} (h : statusOf c.result ≠ exitAborted) :
    c.complaint = "" := by
  rw [Conclusion.complaint]
  cases hresult : c.result with
  | ok status => rfl
  | error trouble =>
      rw [hresult] at h
      exact if_neg fun hstatus => h (beq_iff_eq.mp hstatus)

/-- That of an aborted run ends with what its chain of causes tells. -/
theorem complaint_of_aborted (h : statusOf (conclude s o).result = exitAborted) :
    ∃ trouble parts, ComesTo s o (.error trouble) ∧ Tells trouble.chain parts
      ∧ (conclude s o).complaint = "ERROR: " ++ Text.joined ": " parts ++ "\n" := by
  obtain ⟨r, hr⟩ := exists_comesTo s o
  have hcases := hr.statusOf_cases
  rw [hr.result_eq] at h
  rw [h] at hcases
  obtain ⟨hstatus, -⟩ | ⟨hstatus, -⟩ | ⟨-, trouble, htrouble⟩ := hcases
  · cases hstatus
  · cases hstatus
  · rw [htrouble] at h hr
    obtain ⟨parts, htells, hmessage⟩ := trouble.message_eq
    refine ⟨trouble, parts, hr, htells, ?_⟩
    rw [Conclusion.complaint, hr.result_eq, ← hmessage]
    exact if_pos (beq_iff_eq.mpr h)

/-! ## Bad profiles -/

/-- The profile cannot be loaded, or it has to be compiled and cannot be. -/
inductive BadProfile (s : Surroundings Id) (o : Options) : Prop where
  | unloaded (f : Failure) : profileIn s.file o.profile = .error f → BadProfile s o
  | uncompiled (p : Profile) (f : Failure) : profileIn s.file o.profile = .ok p →
      o.printProfile = false → p.compile = .error f → BadProfile s o

/-- With a bad profile the run is the same in all surroundings that hold it, and it asks them for
nothing else. -/
theorem BadProfile.conclude_eq (h : BadProfile s o) {m : Type → Type} [Monad m] [LawfulMonad m]
    {t : Surroundings m} (ht : Holds t s.file o.profile) :
    conclude t o = pure (conclude s o) := by
  cases h with
  | unloaded f hf =>
      obtain ⟨path, hpath, hconclude⟩ := conclude_of_unloaded ht hf
      obtain ⟨path', hpath', hconclude'⟩ := conclude_of_unloaded (t := s) (fun _ _ => rfl) hf
      rw [hconclude, hconclude', Option.some.inj (hpath.symm.trans hpath')]
      rfl
  | uncompiled p f hp hprint hf =>
      rw [conclude_of_loaded ht hp, conclude_of_loaded (t := s) (fun _ _ => rfl) hp,
        runWith_of_uncompiled hprint hf, runWith_of_uncompiled hprint hf, pure_bind]
      rfl

theorem BadProfile.statusOf_eq (h : BadProfile s o) :
    statusOf (conclude s o).result = exitAborted := by
  cases h with
  | unloaded f hf =>
      obtain ⟨path, hpath, -⟩ := conclude_of_unloaded (t := s) (fun _ _ => rfl) hf
      rw [(ComesTo.unloaded path f hpath hf).result_eq, statusOf]
      rw [hpath] at hf
      exact Profile.exitStatus_of_load hf
  | uncompiled p f hp hprint hf =>
      rw [(ComesTo.uncompiled p f hp hprint hf).result_eq, statusOf]
      exact Profile.exitStatus_of_compile hf

end

/-! ## Replies -/

/-- A command line that is accepted is replied to with the conclusion of its run. -/
theorem run_of_accepted {words : List String} {o : Options} (ho : Options.ofWords words = .ok o)
    {m : Type → Type} [Monad m] (t : Surroundings m) :
    run t words = conclude t o >>= fun c => pure (c.reply o.verbose) := by
  rw [run, ho]

/-- The exit status is the verdict: 0 when it passes or the profile is printed, 1 when it fails, 2
when there is none. Only a run without verdict has a message, and its message is told by the causes
of the trouble down to the first failure. A bad profile is such a trouble whatever else there is. -/
theorem exit_status_is_verdict {words : List String} {o : Options}
    (ho : Options.ofWords words = .ok o) (s : Surroundings Id) :
    ((run s words).exitStatus = 0 ↔ Succeeds s o)
    ∧ ((run s words).exitStatus = 1 ↔ Fails s o)
    ∧ (¬ Succeeds s o → ¬ Fails s o → (run s words).exitStatus = 2)
    ∧ (∀ p, profileIn s.file o.profile = .ok p → o.printProfile = true →
        (run s words).output = p.toYaml)
    ∧ (∀ trouble, ComesTo s o (.error trouble) → Exits trouble.chain (run s words).exitStatus)
    ∧ (∃ events : List Event, (∀ e ∈ events, e.shown o.verbose = true)
      ∧ ((run s words).exitStatus ≠ 2 → (run s words).errorOutput = linesOf events)
      ∧ ((run s words).exitStatus = 2 → ∃ trouble parts, ComesTo s o (.error trouble)
        ∧ Tells trouble.chain parts
        ∧ (run s words).errorOutput
          = linesOf events ++ ("ERROR: " ++ Text.joined ": " parts ++ "\n")))
    ∧ (∀ (f : Failure) (text : String), f.beneath? = some text →
        ∃ opening, f.message = opening ++ text)
    ∧ (BadProfile s o → (run s words).exitStatus = 2
      ∧ ∀ {m : Type → Type} [Monad m] [LawfulMonad m] (t : Surroundings m),
        Holds t s.file o.profile → run t words = pure (run s words)) := by
  have hrun : run s words = (conclude s o).reply o.verbose := run_of_accepted ho s
  have hstatus : (run s words).exitStatus = statusOf (conclude s o).result := by
    rw [hrun]
    exact statusOf_result _
  obtain ⟨hpassed, hfailed, haborted⟩ := statusOf_conclude s o
  rw [hstatus]
  refine ⟨hpassed, hfailed, haborted, ?_, ?_, ?_, fun f text => Failure.message_of_beneath, ?_⟩
  · intro p hp hprint
    rw [hrun, conclude_of_loaded (t := s) (fun _ _ => rfl) hp, runWith_of_printing p hprint]
    rfl
  · intro trouble h
    rw [h.result_eq]
    exact trouble.exits_exitStatus
  · refine ⟨(conclude s o).events.filter (·.shown o.verbose),
      fun e he => (List.mem_filter.mp he).2, fun h => ?_, fun h => ?_⟩
    · rw [hrun]
      show linesOf _ ++ (conclude s o).complaint = _
      rw [complaint_of_not_aborted h, String.append_empty]
    · obtain ⟨trouble, parts, hcomes, htells, hcomplaint⟩ := complaint_of_aborted h
      refine ⟨trouble, parts, hcomes, htells, ?_⟩
      rw [hrun, ← hcomplaint]
      rfl
  · intro hbad
    refine ⟨hbad.statusOf_eq, fun t ht => ?_⟩
    rw [run_of_accepted ho t, hbad.conclude_eq ht, pure_bind, hrun]

namespace Sample

/-- Surroundings that hold nothing. -/
def surroundings : Surroundings Id where
  environment := none
  stdin := none
  file := fun _ => .error .notFound
  tool := fun name =>
    ⟨name, .error Tool.notFoundReason, fun _ => .notStarted Tool.notFoundReason⟩
  temporary := ⟨none, ""⟩

end Sample

theorem sample_exit_status_is_verdict :
    ∃ missing printing, Options.ofWords ["--profile", "p"] = .ok missing
      ∧ Options.ofWords ["--print-profile"] = .ok printing
      ∧ (run Sample.surroundings ["--profile", "p"]).exitStatus = 2
      ∧ (run Sample.surroundings ["--print-profile"]).exitStatus = 0 := by
  have hmissing : Options.ofWords ["--profile", "p"] = .ok ⟨false, none, some "p", "oc", false⟩ := by
    decide +kernel
  have hprinting : Options.ofWords ["--print-profile"] = .ok ⟨false, none, none, "oc", true⟩ := by
    decide +kernel
  obtain ⟨-, -, -, -, -, -, -, hbad⟩ := exit_status_is_verdict hmissing Sample.surroundings
  obtain ⟨hpassed, -⟩ := exit_status_is_verdict hprinting Sample.surroundings
  exact ⟨_, _, hmissing, hprinting, (hbad (.unloaded _ rfl)).1,
    hpassed.mpr (.printed .builtIn rfl rfl)⟩

end CommandLine

end ReleaseGate
