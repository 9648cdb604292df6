import ReleaseGate.Proofs.Replacement
import ReleaseGate.Proofs.Trimmed
import ReleaseGate.Tool

/-!
# Fates of tools — what an extraction tells of its tool

A tool is looked for, started with four arguments and waited for. The extraction succeeds just when
the tool was found, was started and has ended well, no matter what it wrote to its error output.
Otherwise the failure names the image and gives a reason that can be seen: what the tool has said,
or how it came to its end when it said nothing.
-/

namespace ReleaseGate.Tool

/-- A tool that is found, is started with the arguments, and ends with the exit status zero. -/
def Succeeds (t : Tool) (args : List String) : Prop :=
  ∃ path made said, t.path = .ok path ∧ t.fate args = .ran made said (.exited 0)

/-- Why a tool fails with the arguments: it is not found, it is not started, or it has come to a bad
end. Then what it said is the reason, without the white space at either end, unless nothing is left
of it. -/
inductive FailsFor (t : Tool) (args : List String) : String → Prop where
  | notFound (reason : String) : t.path = .error reason →
      FailsFor t args (t.name ++ " not found: " ++ reason)
  | notStarted (path reason : String) : t.path = .ok path →
      t.fate args = .notStarted reason →
      FailsFor t args ("failed to run " ++ path ++ ": " ++ reason)
  | said (path heard reason : String) (made : Directory) (said : List UInt8) (ending : Ending) :
      t.path = .ok path → t.fate args = .ran made said ending → ending ≠ .exited 0 →
      Text.ShownAs said heard.toList → Text.Trims heard reason → reason ≠ "" →
      FailsFor t args reason
  | silent (path heard : String) (made : Directory) (said : List UInt8) (ending : Ending) :
      t.path = .ok path → t.fate args = .ran made said ending → ending ≠ .exited 0 →
      Text.ShownAs said heard.toList → ¬ Text.Filled heard →
      FailsFor t args (path ++ " exited with " ++ ending.words)

/-! ## How a tool ends -/

theorem succeeded_iff (ending : Ending) : ending.succeeded = true ↔ ending = .exited 0 := by
  cases ending with
  | exited status =>
      rw [Ending.succeeded, beq_iff_eq]
      exact ⟨congrArg Ending.exited, Ending.exited.inj⟩
  | killed signal dumped => exact ⟨fun h => (nomatch h), fun h => (nomatch h)⟩

/-- The complaint about a tool is what it has said, unless nothing is left of that. -/
theorem complaint_eq_iff (path : String) (said : List UInt8) (ending : Ending) (reason : String) :
    complaint path said ending = reason ↔ ∃ heard, Text.ShownAs said heard.toList ∧
      (reason ≠ "" ∧ Text.Trims heard reason
        ∨ ¬ Text.Filled heard ∧ reason = path ++ " exited with " ++ ending.words) := by
  have hunique : ∀ heard, Text.ShownAs said heard.toList → Text.decodeReplacing said = heard :=
    fun heard => Text.decodeReplacing_eq_iff.mpr
  have hshown : Text.ShownAs said (Text.decodeReplacing said).toList :=
    Text.decodeReplacing_eq_iff.mp rfl
  rw [complaint]
  by_cases hempty : Text.trim (Text.decodeReplacing said) = ""
  · have hsilent : ¬ Text.Filled (Text.decodeReplacing said) :=
      (Text.trims_empty_iff _).mp ((Text.trim_eq_iff _ _).mp hempty)
    rw [if_pos (String.isEmpty_iff.mpr hempty)]
    constructor
    · rintro rfl
      exact ⟨_, hshown, .inr ⟨hsilent, rfl⟩⟩
    · rintro ⟨heard, hheard, ⟨hne, htrims⟩ | ⟨-, hreason⟩⟩
      · rw [hunique heard hheard, (Text.trim_eq_iff ..).mpr htrims] at hempty
        exact absurd hempty hne
      · exact hreason.symm
  · rw [if_neg fun h => hempty (String.isEmpty_iff.mp h)]
    constructor
    · rintro rfl
      exact ⟨_, hshown, .inl ⟨hempty, (Text.trim_eq_iff ..).mp rfl⟩⟩
    · rintro ⟨heard, hheard, ⟨-, htrims⟩ | ⟨hsilent, -⟩⟩
      · rw [hunique heard hheard]
        exact (Text.trim_eq_iff ..).mpr htrims
      · rw [hunique heard hheard] at hempty
        exact absurd ((Text.trim_eq_iff ..).mpr ((Text.trims_empty_iff _).mpr hsilent)) hempty

/-! ## How an extraction ends -/

section

variable {t : Tool} {path : String} (image source destination : String)

theorem failure_of_notFound {reason : String} (hpath : t.path = .error reason) :
    (t.extractor image source destination).failure
      = some (.extraction image (t.name ++ " not found: " ++ reason)) := by
  rw [extractor, hpath]

theorem failure_of_notStarted {reason : String} (hpath : t.path = .ok path)
    (hfate : t.fate (arguments image source destination) = .notStarted reason) :
    (t.extractor image source destination).failure
      = some (.extraction image ("failed to run " ++ path ++ ": " ++ reason)) := by
  rw [extractor, hpath]
  dsimp only
  rw [extractAt, hfate]

theorem failure_of_ran {made : Directory} {said : List UInt8} {ending : Ending}
    (hpath : t.path = .ok path)
    (hfate : t.fate (arguments image source destination) = .ran made said ending) :
    (t.extractor image source destination).failure = if ending = .exited 0 then none
      else some (.extraction image (complaint path said ending)) := by
  rw [extractor, hpath]
  dsimp only
  rw [extractAt, hfate]
  simp only [succeeded_iff]

variable (t)

theorem failure_of_succeeds (h : t.Succeeds (arguments image source destination)) :
    (t.extractor image source destination).failure = none := by
  obtain ⟨path, made, said, hpath, hfate⟩ := h
  rw [failure_of_ran image source destination hpath hfate, if_pos rfl]

/-- The reason a tool fails for is the reason of the extraction. -/
theorem failure_of_failsFor {reason : String}
    (h : t.FailsFor (arguments image source destination) reason) :
    (t.extractor image source destination).failure = some (.extraction image reason) := by
  cases h with
  | notFound reason hpath => exact failure_of_notFound image source destination hpath
  | notStarted path reason hpath hfate =>
      exact failure_of_notStarted image source destination hpath hfate
  | said path heard _ made said ending hpath hfate hbad hshown htrims hne =>
      have hcomplaint := (complaint_eq_iff path said ending reason).mpr
        ⟨heard, hshown, .inl ⟨hne, htrims⟩⟩
      rw [failure_of_ran image source destination hpath hfate, if_neg hbad, hcomplaint]
  | silent path heard made said ending hpath hfate hbad hshown hsilent =>
      have hcomplaint := (complaint_eq_iff path said ending _).mpr
        ⟨heard, hshown, .inr ⟨hsilent, rfl⟩⟩
      rw [failure_of_ran image source destination hpath hfate, if_neg hbad, hcomplaint]

/-- A tool succeeds, or there is a reason why it does not. -/
theorem succeeds_or_failsFor (args : List String) :
    t.Succeeds args ∨ ∃ reason, t.FailsFor args reason := by
  cases hpath : t.path with
  | error reason => exact .inr ⟨_, .notFound reason hpath⟩
  | ok path =>
      cases hfate : t.fate args with
      | notStarted reason => exact .inr ⟨_, .notStarted path reason hpath hfate⟩
      | ran made said ending =>
          by_cases hgood : ending = .exited 0
          · exact .inl ⟨path, made, said, hpath, hgood ▸ hfate⟩
          · refine .inr ⟨complaint path said ending, ?_⟩
            obtain ⟨heard, hshown, ⟨hne, htrims⟩ | ⟨hsilent, hreason⟩⟩ :=
              (complaint_eq_iff path said ending _).mp rfl
            · exact .said path heard _ made said ending hpath hfate hgood hshown htrims hne
            · rw [hreason]
              exact .silent path heard made said ending hpath hfate hgood hshown hsilent

/-- An extraction succeeds just when its tool does. -/
theorem failure_eq_none_iff : (t.extractor image source destination).failure = none
    ↔ t.Succeeds (arguments image source destination) := by
  refine ⟨fun h => ?_, failure_of_succeeds t image source destination⟩
  rcases t.succeeds_or_failsFor (arguments image source destination) with hgood | ⟨reason, hfails⟩
  · exact hgood
  · rw [failure_of_failsFor t image source destination hfails] at h
    cases h

/-- There is no failure but that of the tool. -/
theorem exists_failsFor {f : Failure}
    (h : (t.extractor image source destination).failure = some f) :
    ∃ reason, t.FailsFor (arguments image source destination) reason
      ∧ f = .extraction image reason := by
  rcases t.succeeds_or_failsFor (arguments image source destination) with hgood | ⟨reason, hfails⟩
  · rw [failure_of_succeeds t image source destination hgood] at h
    cases h
  · rw [failure_of_failsFor t image source destination hfails] at h
    exact ⟨reason, hfails, (Option.some.inj h).symm⟩

end

/-- The reason a tool fails for is never blank. -/
theorem FailsFor.filled {t : Tool} {args : List String} {reason : String}
    (h : t.FailsFor args reason) : Text.Filled reason := by
  cases h with
  | notFound reason _ =>
      have hwords : Text.Filled " not found: " := ⟨'n', by decide, by decide⟩
      simp only [Text.filled_append, hwords, true_or, or_true]
  | notStarted path reason _ _ =>
      have hwords : Text.Filled "failed to run " := ⟨'f', by decide, by decide⟩
      simp only [Text.filled_append, hwords, true_or]
  | said path heard _ made said ending _ _ _ _ htrims hne => exact htrims.filled hne
  | silent path heard made said ending _ _ _ _ _ =>
      have hwords : Text.Filled " exited with " := ⟨'e', by decide, by decide⟩
      simp only [Text.filled_append, hwords, true_or, or_true]

/-! ## What a tool is given -/

/-- A tool matters only by its name, its path and what becomes of it with the arguments. -/
theorem extractor_congr {t t' : Tool} {image source destination : String}
    (hname : t'.name = t.name) (hpath : t'.path = t.path)
    (hstart : t'.start (arguments image source destination)
      = t.start (arguments image source destination)) :
    t'.extractor image source destination = t.extractor image source destination := by
  have hfate : t'.fate (arguments image source destination)
      = t.fate (arguments image source destination) := by
    rw [fate, fate, hstart]
  simp only [extractor, extractAt, hname, hpath, hfate]

/-- Where a list is split at the last one of a kind, it cannot be split otherwise. -/
theorem split_last_iff {α : Type} {sep : α} {front back : List α} (hback : sep ∉ back)
    (front' back' : List α) :
    (front ++ sep :: back = front' ++ sep :: back' ∧ sep ∉ back')
      ↔ front' = front ∧ back' = back := by
  constructor
  · rintro ⟨hsame, hback'⟩
    rcases List.append_eq_append_iff.mp hsame with ⟨more, rfl, hmore⟩ | ⟨more, rfl, hmore⟩
    · match more with
      | [] => exact ⟨List.append_nil front, (List.tail_eq_of_cons_eq hmore).symm⟩
      | x :: more =>
          have htail : back = more ++ sep :: back' := List.tail_eq_of_cons_eq hmore
          exact absurd (htail ▸ List.mem_append_right more List.mem_cons_self) hback
    · match more with
      | [] => exact ⟨(List.append_nil front').symm, List.tail_eq_of_cons_eq hmore⟩
      | x :: more =>
          have htail : back' = more ++ sep :: back := List.tail_eq_of_cons_eq hmore
          exact absurd (htail ▸ List.mem_append_right more List.mem_cons_self) hback'
  · rintro ⟨rfl, rfl⟩
    exact ⟨rfl, hback⟩

/-- The last argument splits at its last colon. -/
theorem last_argument_splits {source destination : String} (h : ':' ∉ destination.toList)
    (front back : String) :
    ("--path=" ++ source ++ ":" ++ destination = front ++ ":" ++ back ∧ ':' ∉ back.toList)
      ↔ front = "--path=" ++ source ∧ back = destination := by
  have hlist : ∀ a b : String, (a ++ ":" ++ b).toList = a.toList ++ ':' :: b.toList := by
    intro a b
    rw [String.toList_append, String.toList_append, List.append_assoc]
    rfl
  rw [← String.toList_inj, ← String.toList_inj, ← String.toList_inj, hlist, hlist]
  exact split_last_iff h front.toList back.toList

/-- A tool is given four arguments: the third is the image as it is, and the last one splits at its
last colon into the option with the source and the destination. Nothing else of the tool matters but
what becomes of it with these. The extraction succeeds just when the tool does, and otherwise it
fails with the image and a reason, never a blank one, that the fate of the tool decides. -/
theorem fate_told_faithfully (t : Tool) (image source destination : String) :
    (∃ last, arguments image source destination = ["image", "extract", image, last]
      ∧ (':' ∉ destination.toList → ∀ front back : String,
        (last = front ++ ":" ++ back ∧ ':' ∉ back.toList)
          ↔ front = "--path=" ++ source ∧ back = destination))
      ∧ (∀ t' : Tool, t'.name = t.name → t'.path = t.path →
        t'.start (arguments image source destination)
          = t.start (arguments image source destination) →
        t'.extractor image source destination = t.extractor image source destination)
      ∧ ((t.extractor image source destination).failure = none
        ↔ t.Succeeds (arguments image source destination))
      ∧ ∀ f, (t.extractor image source destination).failure = some f ↔
        ∃ reason, t.FailsFor (arguments image source destination) reason ∧ Text.Filled reason
          ∧ f = .extraction image reason := by
  refine ⟨⟨_, rfl, last_argument_splits⟩, fun t' => extractor_congr,
    failure_eq_none_iff t image source destination, fun f => ⟨fun h => ?_, ?_⟩⟩
  · obtain ⟨reason, hfails, hf⟩ := exists_failsFor t image source destination h
    exact ⟨reason, hfails, hfails.filled, hf⟩
  · rintro ⟨reason, hfails, -, rfl⟩
    exact failure_of_failsFor t image source destination hfails

namespace Sample

/-- A tool that is killed after it has written some bytes to its error output. -/
def killed (said : List UInt8) : Tool :=
  ⟨"oc", .ok "/bin/oc", fun _ => .ran [] said (.killed 9 false)⟩

end Sample

/-- Of a byte that is no text between blank ones only its replacement is told, and white space
beyond ASCII counts as nothing said. -/
theorem sample_fate_told_faithfully :
    ':' ∉ "/tmp/x".toList
      ∧ (∃ last, arguments "a b:c" "/m:n/" "/tmp/x" = ["image", "extract", "a b:c", last]
        ∧ ∀ front back : String, (last = front ++ ":" ++ back ∧ ':' ∉ back.toList)
          ↔ front = "--path=/m:n/" ∧ back = "/tmp/x")
      ∧ ((Sample.killed [0x20, 0xFF, 0x0A]).extractor "a b:c" "/m:n/" "/tmp/x").failure
        = some (.extraction "a b:c" "\uFFFD")
      ∧ ((Sample.killed [0xE2, 0x80, 0x83, 0x0A]).extractor "a b:c" "/m:n/" "/tmp/x").failure
        = some (.extraction "a b:c" "/bin/oc exited with signal: 9 (SIGKILL)") := by
  have hcolon : ':' ∉ "/tmp/x".toList := by decide
  obtain ⟨⟨last, hargs, hsplits⟩, -, -, hsaid⟩ :=
    fate_told_faithfully (Sample.killed [0x20, 0xFF, 0x0A]) "a b:c" "/m:n/" "/tmp/x"
  obtain ⟨-, -, -, hsilent⟩ :=
    fate_told_faithfully (Sample.killed [0xE2, 0x80, 0x83, 0x0A]) "a b:c" "/m:n/" "/tmp/x"
  refine ⟨hcolon, ⟨last, hargs, hsplits hcolon⟩, (hsaid _).mpr ⟨_, ?_, ?_, rfl⟩,
    (hsilent _).mpr ⟨_, ?_, ?_, rfl⟩⟩
  · exact .said "/bin/oc" " \uFFFD\n" _ [] [0x20, 0xFF, 0x0A] (.killed 9 false) rfl rfl (by decide)
      (Text.decodeReplacing_eq_iff.mp (by decide)) ((Text.trim_eq_iff ..).mp (by decide))
      (by decide)
  · exact ⟨'\uFFFD', by decide, by decide⟩
  · exact .silent "/bin/oc" "\u2003\n" [] [0xE2, 0x80, 0x83, 0x0A] (.killed 9 false) rfl rfl
      (by decide) (Text.decodeReplacing_eq_iff.mp (by decide))
      ((Text.trims_empty_iff _).mp ((Text.trim_eq_iff ..).mp (by decide)))
  · exact ⟨'/', by decide, by decide⟩

end ReleaseGate.Tool
