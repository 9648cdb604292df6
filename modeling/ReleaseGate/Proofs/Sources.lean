import ReleaseGate.CommandLine
import ReleaseGate.Proofs.Items
import ReleaseGate.Proofs.Trimmed
import ReleaseGate.Proofs.Utf8

/-!
# Sources — where the text of a snapshot is taken from

The flag, the environment and the standard input are looked at in this order, and the first that
holds something gives the snapshot, white space around it included. The standard input is the only
one that can be at fault. It is not asked for while one of the others holds something, so then it
makes no difference what it holds, whether that is text, or whether it can be read at all.
-/

namespace ReleaseGate

namespace Input

/-- A source offers a text: it is there, and it is not blank. -/
def Offers (source : Option String) (text : String) : Prop :=
  source = some text ∧ Text.Filled text

/-- A source that offers nothing: it is not there, or it is blank. -/
def Bare (source : Option String) : Prop :=
  ∀ text, ¬ Offers source text

/-- What the snapshot is taken from: the first source that offers a text. That the standard input
cannot be read, and bytes that are no text, are errors once it is its turn. -/
inductive TakenFrom (flag env : Option String) :
    Option (Except String (List UInt8)) → Except String (Option String) → Prop where
  | flag (stdin : Option (Except String (List UInt8))) (text : String) : Offers flag text →
      TakenFrom flag env stdin (.ok (some text))
  | environment (stdin : Option (Except String (List UInt8))) (text : String) : Bare flag →
      Offers env text → TakenFrom flag env stdin (.ok (some text))
  | stdin (text : String) : Bare flag → Bare env → Text.Filled text →
      TakenFrom flag env (some (.ok (Text.encode text))) (.ok (some text))
  | blank (text : String) : Bare flag → Bare env → ¬ Text.Filled text →
      TakenFrom flag env (some (.ok (Text.encode text))) (.ok none)
  | nothing : Bare flag → Bare env → TakenFrom flag env none (.ok none)
  | unread (reason : String) : Bare flag → Bare env →
      TakenFrom flag env (some (.error reason)) (.error reason)
  | noText (bytes : List UInt8) : Bare flag → Bare env → (∀ text, bytes ≠ Text.encode text) →
      TakenFrom flag env (some (.ok bytes)) (.error notUtf8Reason)

/-! ## The first two sources -/

theorem given_eq_some (source : Option String) (text : String) :
    given source = some text ↔ Offers source text := by
  rw [given, Option.filter_eq_some_iff, Bool.not_eq_true', Text.blank_eq_false_iff]
  rfl

theorem given_eq_none (source : Option String) : given source = none ↔ Bare source := by
  simp only [Option.eq_none_iff_forall_ne_some, Ne, given_eq_some, Bare]

theorem bare_of_blank {text : String} (h : ¬ Text.Filled text) : Bare (some text) := by
  rintro _ ⟨hsame, hfilled⟩
  cases hsame
  exact h hfilled

theorem beforeStdin_eq_some (flag env : Option String) (text : String) :
    beforeStdin flag env = some text ↔ Offers flag text ∨ Bare flag ∧ Offers env text := by
  rw [beforeStdin, Option.or_eq_some_iff, given_eq_some, given_eq_none, given_eq_some]

theorem beforeStdin_eq_none (flag env : Option String) :
    beforeStdin flag env = none ↔ Bare flag ∧ Bare env := by
  rw [beforeStdin, Option.or_eq_none_iff, given_eq_none, given_eq_none]

variable {flag env : Option String}

/-- A text that is offered before the standard input is taken as it is. -/
theorem snapshot_of_before {text : String} (h : beforeStdin flag env = some text)
    (stdin : Option (Except String (List UInt8))) :
    snapshot flag env stdin = .ok (some text) := by
  rw [snapshot.eq_def, h]

/-! ## All three sources -/

/-- Without such a text, that of the standard input is taken if it is not blank. -/
theorem snapshot_of_stdin (h : beforeStdin flag env = none) (text : String) :
    snapshot flag env (some (.ok (Text.encode text))) = .ok (given (some text)) := by
  rw [snapshot.eq_def, h]
  dsimp only
  rw [Text.decode?_eq_some_iff.mpr rfl]

theorem snapshot_of_noText (h : beforeStdin flag env = none) {bytes : List UInt8}
    (hno : ∀ text, bytes ≠ Text.encode text) :
    snapshot flag env (some (.ok bytes)) = .error notUtf8Reason := by
  have hdecode : Text.decode? bytes = none :=
    Option.eq_none_iff_forall_ne_some.mpr fun text htext =>
      hno text (Text.decode?_eq_some_iff.mp htext)
  rw [snapshot.eq_def, h]
  dsimp only
  rw [hdecode]

theorem takenFrom_snapshot (flag env : Option String)
    (stdin : Option (Except String (List UInt8))) :
    TakenFrom flag env stdin (snapshot flag env stdin) := by
  cases hbefore : beforeStdin flag env with
  | some text =>
      rw [snapshot_of_before hbefore]
      rcases (beforeStdin_eq_some flag env text).mp hbefore with hflag | ⟨hflag, henv⟩
      · exact .flag stdin text hflag
      · exact .environment stdin text hflag henv
  | none =>
      obtain ⟨hflag, henv⟩ := (beforeStdin_eq_none flag env).mp hbefore
      match stdin with
      | none =>
          rw [snapshot.eq_def, hbefore]
          exact .nothing hflag henv
      | some (.error reason) =>
          rw [snapshot.eq_def, hbefore]
          exact .unread reason hflag henv
      | some (.ok bytes) =>
          by_cases htext : ∃ text, bytes = Text.encode text
          · obtain ⟨text, rfl⟩ := htext
            rw [snapshot_of_stdin hbefore]
            by_cases hfilled : Text.Filled text
            · rw [(given_eq_some ..).mpr ⟨rfl, hfilled⟩]
              exact .stdin text hflag henv hfilled
            · rw [(given_eq_none _).mpr (bare_of_blank hfilled)]
              exact .blank text hflag henv hfilled
          · have hno : ∀ text, bytes ≠ Text.encode text := not_exists.mp htext
            rw [snapshot_of_noText hbefore hno]
            exact .noText bytes hflag henv hno

theorem snapshot_of_takenFrom {stdin : Option (Except String (List UInt8))}
    {x : Except String (Option String)} (h : TakenFrom flag env stdin x) :
    snapshot flag env stdin = x := by
  cases h with
  | flag _ text hflag => exact snapshot_of_before ((beforeStdin_eq_some ..).mpr (.inl hflag)) _
  | environment _ text hflag henv =>
      exact snapshot_of_before ((beforeStdin_eq_some ..).mpr (.inr ⟨hflag, henv⟩)) _
  | stdin text hflag henv hfilled =>
      rw [snapshot_of_stdin ((beforeStdin_eq_none ..).mpr ⟨hflag, henv⟩),
        (given_eq_some ..).mpr ⟨rfl, hfilled⟩]
  | blank text hflag henv hblank =>
      rw [snapshot_of_stdin ((beforeStdin_eq_none ..).mpr ⟨hflag, henv⟩),
        (given_eq_none _).mpr (bare_of_blank hblank)]
  | nothing hflag henv =>
      rw [snapshot.eq_def, (beforeStdin_eq_none ..).mpr ⟨hflag, henv⟩]
  | unread reason hflag henv =>
      rw [snapshot.eq_def, (beforeStdin_eq_none ..).mpr ⟨hflag, henv⟩]
  | noText bytes hflag henv hno =>
      exact snapshot_of_noText ((beforeStdin_eq_none ..).mpr ⟨hflag, henv⟩) hno

/-- What a source other than the standard input offers is taken. -/
theorem exists_beforeStdin (h : ¬ (Bare flag ∧ Bare env)) :
    ∃ text, beforeStdin flag env = some text := by
  rw [← Option.ne_none_iff_exists', Ne, beforeStdin_eq_none]
  exact h

/-- There is an error just when the standard input is needed and cannot be read or is no text. -/
theorem snapshot_eq_error_iff (flag env : Option String)
    (stdin : Option (Except String (List UInt8))) (reason : String) :
    snapshot flag env stdin = .error reason ↔ Bare flag ∧ Bare env
      ∧ (stdin = some (.error reason) ∨ reason = notUtf8Reason
        ∧ ∃ bytes, stdin = some (.ok bytes) ∧ ∀ text, bytes ≠ Text.encode text) := by
  constructor
  · intro h
    have htaken := takenFrom_snapshot flag env stdin
    rw [h] at htaken
    cases htaken with
    | unread reason hflag henv => exact ⟨hflag, henv, .inl rfl⟩
    | noText bytes hflag henv hno => exact ⟨hflag, henv, .inr ⟨rfl, bytes, rfl, hno⟩⟩
  · rintro ⟨hflag, henv, rfl | ⟨rfl, bytes, rfl, hno⟩⟩
    · exact snapshot_of_takenFrom (.unread reason hflag henv)
    · exact snapshot_of_takenFrom (.noText bytes hflag henv hno)

end Input

/-! ## Asking for the standard input -/

namespace CommandLine

open Input

/-- What a run makes of the snapshot it was given, or of none. -/
def toldOf : Except String (Option String) → Except Trouble String
  | .error reason => .error (.snapshotNotRead reason)
  | .ok none => .error .noSnapshot
  | .ok (some raw) => .ok raw

section

variable {m : Type → Type} [Monad m] [LawfulMonad m] {s : Surroundings m}
  {flag env : Option String}

/-- While another source offers a text, the standard input is not asked for. -/
theorem readSnapshot_of_before (hs : s.environment = pure env) {text : String}
    (h : beforeStdin flag env = some text) : readSnapshot s flag = pure (.ok text) := by
  rw [readSnapshot, hs, pure_bind, h, Option.isSome_some, if_pos rfl, pure_bind]
  dsimp only
  rw [snapshot_of_before h]

/-- When no other source does, the standard input is asked for, and it decides. -/
theorem readSnapshot_of_stdin (hs : s.environment = pure env)
    (h : beforeStdin flag env = none) : readSnapshot s flag =
      s.stdin >>= fun stdin => pure (toldOf (snapshot flag env stdin)) := by
  rw [readSnapshot, hs, pure_bind, h, Option.isSome_none]
  rfl

/-- A run fails with the standard input only when it is asked for. -/
theorem readSnapshot_eq_error {ε : Type} {s : Surroundings (Except ε)} {fault : ε}
    (hs : s.environment = .ok env) :
    readSnapshot s flag = .error fault ↔ Bare flag ∧ Bare env ∧ s.stdin = .error fault := by
  by_cases h : Bare flag ∧ Bare env
  · rw [readSnapshot_of_stdin hs ((beforeStdin_eq_none flag env).mpr h), bind_eq_error]
    constructor
    · rintro (hstdin | ⟨stdin, -, htold⟩)
      · exact ⟨h.1, h.2, hstdin⟩
      · cases htold
    · rintro ⟨-, -, hstdin⟩
      exact .inl hstdin
  · obtain ⟨text, hbefore⟩ := exists_beforeStdin h
    rw [readSnapshot_of_before hs hbefore]
    constructor
    · intro htold
      cases htold
    · rintro ⟨hflag, henv, -⟩
      exact absurd ⟨hflag, henv⟩ h

end

/-- The snapshot is the text of the first source that is not blank, as it stands there, and there is
none without such a source. While the flag or the environment offers a text, the standard input is
not asked for and makes no difference. Otherwise there is an error if it cannot be read or is no
text, and what fails when it is asked for makes the run fail. -/
theorem first_filled_source_counts (flag env : Option String) :
    (∀ stdin x, snapshot flag env stdin = x ↔ TakenFrom flag env stdin x)
      ∧ (∀ stdin reason, snapshot flag env stdin = .error reason ↔ Bare flag ∧ Bare env
        ∧ (stdin = some (.error reason) ∨ reason = notUtf8Reason
          ∧ ∃ bytes, stdin = some (.ok bytes) ∧ ∀ text, bytes ≠ Text.encode text))
      ∧ (¬ (Bare flag ∧ Bare env) →
        ∀ stdin stdin', snapshot flag env stdin = snapshot flag env stdin')
      ∧ (∀ (m : Type → Type) [Monad m] [LawfulMonad m] (s : Surroundings m),
        s.environment = pure env →
          (¬ (Bare flag ∧ Bare env) →
            ∀ stdin, readSnapshot s flag = pure (toldOf (snapshot flag env stdin)))
          ∧ (Bare flag ∧ Bare env → readSnapshot s flag =
            s.stdin >>= fun stdin => pure (toldOf (snapshot flag env stdin))))
      ∧ ∀ (ε : Type) (s : Surroundings (Except ε)) (fault : ε), s.environment = .ok env →
        (readSnapshot s flag = .error fault ↔ Bare flag ∧ Bare env ∧ s.stdin = .error fault) := by
  refine ⟨fun stdin x => ⟨fun h => h ▸ takenFrom_snapshot flag env stdin, snapshot_of_takenFrom⟩,
    snapshot_eq_error_iff flag env, fun h stdin stdin' => ?_, fun m _ _ s hs => ⟨?_, ?_⟩,
    fun ε s fault => readSnapshot_eq_error⟩
  · obtain ⟨text, hbefore⟩ := exists_beforeStdin h
    rw [snapshot_of_before hbefore, snapshot_of_before hbefore]
  · intro h stdin
    obtain ⟨text, hbefore⟩ := exists_beforeStdin h
    rw [readSnapshot_of_before hs hbefore, snapshot_of_before hbefore]
    rfl
  · intro h
    exact readSnapshot_of_stdin hs ((beforeStdin_eq_none flag env).mpr h)

namespace Sample

/-- Surroundings with a text in the environment whose standard input cannot be read. -/
def deaf : Surroundings (Except String) where
  environment := .ok (some " [] ")
  stdin := .error "Input/output error (os error 5)"
  file := fun _ => .ok (.error .notFound)
  tool := fun name =>
    .ok ⟨name, .error Tool.notFoundReason, fun _ => .notStarted Tool.notFoundReason⟩
  temporary := ⟨some [], "/tmp/x"⟩

end Sample

/-- A flag of white space beyond ASCII is passed over, and the text behind it is taken with its
blanks, though the standard input is no text or cannot be read. -/
theorem sample_first_filled_source_counts :
    ¬ (Bare (some "\u2003\n") ∧ Bare (some " [] "))
      ∧ snapshot (some "\u2003\n") (some " [] ") (some (.ok [0xFF])) = .ok (some " [] ")
      ∧ Sample.deaf.environment = .ok (some " [] ")
      ∧ readSnapshot Sample.deaf (some "\u2003\n") = .ok (.ok " [] ")
      ∧ snapshot (some "\u2003\n") none (some (.ok [0xFF])) = .error notUtf8Reason
      ∧ snapshot (some "\u2003\n") none (some (.error FileFault.isDirectory.words))
        = .error "Is a directory (os error 21)" := by
  have henv : Offers (some " [] ") " [] " := ⟨rfl, '[', by decide, by decide⟩
  have hflag : Bare (some "\u2003\n") :=
    bare_of_blank ((Text.blank_eq_false_iff _).not.mp (by decide))
  have hbare : ¬ (Bare (some "\u2003\n") ∧ Bare (some " [] ")) := fun h => h.2 _ henv
  have hnone : Bare none := fun text h => nomatch h.1
  have hnoText : ∀ text, [0xFF] ≠ Text.encode text := by
    intro text htext
    exact nomatch (Text.decode?_eq_some_iff.mpr htext).symm.trans (by decide : _ = none)
  obtain ⟨htaken, -, -, hasked, -⟩ :=
    first_filled_source_counts (some "\u2003\n") (some " [] ")
  obtain ⟨-, herror, -, -⟩ := first_filled_source_counts (some "\u2003\n") none
  have hsnapshot := (htaken (some (.ok [0xFF])) _).mpr (.environment _ _ hflag henv)
  refine ⟨hbare, hsnapshot, rfl, ?_,
    (herror _ _).mpr ⟨hflag, hnone, .inr ⟨rfl, _, rfl, hnoText⟩⟩,
    (herror _ _).mpr ⟨hflag, hnone, .inl rfl⟩⟩
  rw [(hasked _ Sample.deaf rfl).1 hbare (some (.ok [0xFF])), hsnapshot]
  rfl

end CommandLine

end ReleaseGate
