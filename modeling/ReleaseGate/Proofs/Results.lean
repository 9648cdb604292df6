import ReleaseGate.Proofs.Advice

/-!
# Results — what the block of the verdict tells

The block of the verdict has a heading, the lines on each outcome and a summary. Outcomes, counts
and the exit status are worked out apart from each other, so a reader who counts the lines of the
block must come to the numbers of the summary and to the verdict of the run. The induction is on the
outcomes: each adds one line to one of the two counts, since neither the lines on its digests nor the
heading and the summary begin as a verdict on a role does.
-/

namespace ReleaseGate

namespace Text

/-- Does a line begin with a text? -/
def begins (front line : String) : Bool :=
  front.toList.isPrefixOf line.toList

/-- How a line begins is told by what it leads with, when that is long enough. -/
theorem begins_append {front lead : String} (h : front.toList.length ≤ lead.toList.length)
    (rest : String) : begins front (lead ++ rest) = begins front lead := by
  rw [begins, begins, Bool.eq_iff_iff, List.isPrefixOf_iff_prefix, List.isPrefixOf_iff_prefix,
    String.toList_append]
  constructor
  · intro hfront
    exact List.prefix_of_prefix_length_le hfront (List.prefix_append ..) h
  · intro hfront
    exact hfront.trans (List.prefix_append ..)

end Text

/-- Where each entry of a list gives one element to be counted just when it passes, as many are
counted as pass. -/
theorem countP_flatMap_of_one {α β : Type} {p : β → Bool} {q : α → Bool} {f : α → List β}
    {l : List α} (h : ∀ a ∈ l, (f a).countP p = if q a then 1 else 0) :
    (l.flatMap f).countP p = (l.filter q).length := by
  induction l with
  | nil => rfl
  | cons a l ih =>
      obtain ⟨ha, hl⟩ := List.forall_mem_cons.mp h
      rw [List.flatMap_cons, List.countP_append, ha, ih hl, List.filter_cons]
      cases q a with
      | true => exact Nat.add_comm ..
      | false => exact Nat.zero_add _

/-! ## Counting a verdict -/

namespace Verdict

variable (v : Verdict)

theorem matching_le : v.matching ≤ v.outcomes.length :=
  List.length_filter_le ..

/-- What does not match fails. -/
theorem failing_eq : v.failing = (v.outcomes.filter fun o => !o.passed).length := by
  have hsplit := List.length_eq_length_filter_add RoleOutcome.passed (l := v.outcomes)
  rw [failing, matching]
  omega

theorem matching_add_failing : v.matching + v.failing = v.outcomes.length :=
  Nat.add_sub_cancel' v.matching_le

/-- Nothing fails just when all passes. -/
theorem failing_eq_zero : v.failing = 0 ↔ v.passed = true := by
  rw [failing_eq, List.length_eq_zero_iff, List.filter_eq_nil_iff, passed, List.all_eq_true]
  refine forall₂_congr fun o _ => ?_
  rw [Bool.not_eq_true', Bool.not_eq_false]

end Verdict

namespace Report

/-! ## The lines on an outcome -/

/-- An outcome whose role and digests can each be told on one line. -/
structure Tellable (o : RoleOutcome) : Prop where
  role : '\n' ∉ o.role.toList
  expected : ∀ d, o.expected = some d → '\n' ∉ d.toList
  actual : ∀ d, o.actual = some d → '\n' ∉ d.toList

/-- What the report has to say of an outcome, by its two digests. Only for a role that the profile
does not have is no manifest named. -/
inductive Tells (p : Profile) (o : RoleOutcome) : List String → Prop where
  | same (d : String) : o.expected = some d → o.actual = some d →
      Tells p o ["PASS: " ++ Text.capitalised o.role ++ " matches"]
  | different (d : String) : o.actual = some d → o.expected ≠ some d →
      Tells p o ["FAIL: " ++ Text.capitalised o.role ++ " mismatch", "  Bundle wants:  " ++ d,
        "  Snapshot has:  " ++ digestOrNone o.expected]
  | missing (r : Rule) : o.actual = none → r ∈ p.roles → r.role = o.role →
      Tells p o ["FAIL: Could not extract " ++ o.role ++ " reference from " ++ r.manifest.label]
  | stray : o.actual = none → (∀ r ∈ p.roles, r.role ≠ o.role) →
      Tells p o ["FAIL: Could not extract " ++ o.role ++ " reference from " ++ "bundle manifests"]

section

variable {p : Profile} {rs : Rules}

/-- A role of the profile is looked for in the manifest that its own rule reads. -/
theorem sourceOf_of_mem (hrs : p.compile = .ok rs) {r : Rule} (hr : r ∈ p.roles) :
    sourceOf rs r.role = r.manifest.label := by
  obtain ⟨rfl, hchecked⟩ := (Profile.compile_eq_ok p rs).mp hrs
  rw [sourceOf, Rules.rule?, (find?_eq_some_of_nodup hchecked.distinct r.role r).mpr ⟨hr, rfl⟩]

theorem sourceOf_of_not_mem (hrs : p.compile = .ok rs) {role : String}
    (h : ∀ r ∈ p.roles, r.role ≠ role) : sourceOf rs role = "bundle manifests" := by
  obtain ⟨rfl, -⟩ := (Profile.compile_eq_ok p rs).mp hrs
  have hnone : rs.rule? role = none :=
    List.find?_eq_none.mpr fun r hr => by simpa using h r hr
  rw [sourceOf, hnone]

/-- The lines on an outcome say what there is to say. -/
theorem tells_outcomeLines (hrs : p.compile = .ok rs) (o : RoleOutcome) :
    Tells p o (outcomeLines rs o) := by
  rw [outcomeLines]
  cases ho : o.outcome with
  | same =>
      obtain ⟨d, hexpected, hactual⟩ := o.outcome_eq_same.mp ho
      exact .same d hexpected hactual
  | different =>
      -- the bundle has a digest, and the snapshot has another one or none
      obtain ⟨hsome, hne⟩ := o.outcome_eq_different.mp ho
      obtain ⟨d, hactual⟩ := Option.ne_none_iff_exists'.mp hsome
      dsimp only
      rw [hactual] at hne ⊢
      exact .different d hactual hne
  | missing =>
      have hactual := o.outcome_eq_missing.mp ho
      by_cases hrole : ∃ r ∈ p.roles, r.role = o.role
      · obtain ⟨r, hr, heq⟩ := hrole
        dsimp only
        rw [← heq, sourceOf_of_mem hrs hr, heq]
        exact .missing r hactual hr heq
      · have hstray : ∀ r ∈ p.roles, r.role ≠ o.role := fun r hr heq => hrole ⟨r, hr, heq⟩
        dsimp only
        rw [sourceOf_of_not_mem hrs hstray]
        exact .stray hactual hstray

variable {o : RoleOutcome}

theorem not_mem_digestOrNone {digest : Option String}
    (h : ∀ d, digest = some d → '\n' ∉ d.toList) : '\n' ∉ (digestOrNone digest).toList := by
  cases digest with
  | none => decide
  | some d => exact h d rfl

/-- A tellable outcome is told line by line. -/
theorem not_mem_outcomeLines (h : Tellable o) :
    ∀ line ∈ outcomeLines rs o, '\n' ∉ line.toList := by
  have htitle := Text.not_mem_capitalised h.role
  rw [outcomeLines]
  cases o.outcome with
  | same => simp [htitle]
  | different =>
      simp [htitle, not_mem_digestOrNone h.expected, not_mem_digestOrNone h.actual]
  | missing => simp [h.role, not_mem_sourceOf]

end

/-! ## Counting lines -/

/-- What a verdict on a role begins with. -/
def verdictLead (o : RoleOutcome) : String :=
  if o.passed then "PASS: " else "FAIL: "

/-- What the other lines of the block lead with. -/
def otherLeads : List String :=
  ["=== Validation Results ===", "", "  Bundle wants:  ", "  Snapshot has:  ", "PASSED: All ",
    "FAILED: ", safe, notSafe]

/-- A text that marks verdicts on roles: it is no longer than what they begin with, and no other
line begins with it. -/
structure Marks (front : String) : Prop where
  short : front.toList.length ≤ 6
  apart : ∀ lead ∈ otherLeads, Text.begins front lead = false

section

variable {front : String} {rs : Rules}

theorem Marks.begins_append (h : Marks front) {lead : String} (hlead : 6 ≤ lead.toList.length)
    (rest : String) : Text.begins front (lead ++ rest) = Text.begins front lead :=
  Text.begins_append (h.short.trans hlead) rest

/-- Of the lines on an outcome, the first alone begins as a verdict does. -/
theorem countP_outcomeLines (h : Marks front) (o : RoleOutcome) :
    (outcomeLines rs o).countP (Text.begins front)
      = if Text.begins front (verdictLead o) then 1 else 0 := by
  rw [outcomeLines, verdictLead, RoleOutcome.passed]
  cases o.outcome with
  | same =>
      rw [String.append_assoc, List.countP_singleton, h.begins_append (by decide)]
      rfl
  | different =>
      have hwants := h.apart "  Bundle wants:  " (by decide)
      have hhas := h.apart "  Snapshot has:  " (by decide)
      dsimp only
      rw [List.countP_cons, List.countP_cons, List.countP_singleton,
        h.begins_append (by decide) (digestOrNone o.expected), hhas,
        h.begins_append (by decide) (digestOrNone o.actual), hwants, String.append_assoc,
        h.begins_append (by decide)]
      exact Nat.zero_add _
  | missing =>
      have hextract : 6 ≤ "FAIL: Could not extract ".toList.length := by decide
      have hfail : 6 ≤ "FAIL: ".toList.length := by decide
      dsimp only
      rw [String.append_assoc, String.append_assoc, List.countP_singleton,
        h.begins_append hextract]
      -- a mark cannot tell this verdict from a shorter one
      show (if Text.begins front ("FAIL: " ++ "Could not extract ") then 1 else 0) = _
      rw [h.begins_append hfail]
      rfl

theorem countP_summaryLines (h : Marks front) (v : Verdict) :
    (summaryLines v).countP (Text.begins front) = 0 := by
  rw [summaryLines]
  cases v.passed with
  | true =>
      have hsafe := h.apart safe (by decide)
      have hpassed := h.apart "PASSED: All " (by decide)
      rw [if_pos rfl, String.append_assoc, List.countP_cons, List.countP_singleton,
        h.begins_append (by decide), hpassed, hsafe]
      rfl
  | false =>
      have hnotSafe := h.apart notSafe (by decide)
      have hfailed := h.apart "FAILED: " (by decide)
      rw [if_neg Bool.false_ne_true, String.append_assoc, String.append_assoc, String.append_assoc,
        List.countP_cons, List.countP_singleton, h.begins_append (by decide), hfailed, hnotSafe]
      rfl

/-- As many lines of the block begin with a mark as verdicts on roles do. -/
theorem countP_resultLines (h : Marks front) (v : Verdict) (rs : Rules) :
    (resultLines v rs ++ [""]).countP (Text.begins front)
      = (v.outcomes.filter fun o => Text.begins front (verdictLead o)).length := by
  have hheading := h.apart "=== Validation Results ===" (by decide)
  have hempty := h.apart "" (by decide)
  -- each outcome adds its verdict; the heading, the blank lines and the summary add nothing
  have houtcomes := countP_flatMap_of_one (p := Text.begins front) (f := outcomeLines rs)
    fun o (_ : o ∈ v.outcomes) => countP_outcomeLines h o
  simp [resultLines, List.countP_append, houtcomes, countP_summaryLines h v, hheading, hempty]

theorem countP_pass (v : Verdict) (rs : Rules) :
    (resultLines v rs ++ [""]).countP (Text.begins "PASS: ") = v.matching := by
  have hmarks : Marks "PASS: " := ⟨by decide, by decide⟩
  rw [countP_resultLines hmarks, Verdict.matching]
  refine congrArg List.length (List.filter_congr fun o _ => ?_)
  rw [verdictLead]
  cases o.passed <;> decide

theorem countP_fail (v : Verdict) (rs : Rules) :
    (resultLines v rs ++ [""]).countP (Text.begins "FAIL: ") = v.failing := by
  have hmarks : Marks "FAIL: " := ⟨by decide, by decide⟩
  rw [countP_resultLines hmarks, Verdict.failing_eq]
  refine congrArg List.length (List.filter_congr fun o _ => ?_)
  rw [verdictLead]
  cases o.passed <;> decide

end

/-! ## The block -/

/-- What the summary has to say of a verdict: the counts, and the advice. -/
inductive Sums (v : Verdict) : String → String → Prop where
  | passed : v.failing = 0 →
      Sums v ("PASSED: All " ++ toString v.matching ++ " references match") safe
  | failed : v.failing ≠ 0 →
      Sums v ("FAILED: " ++ toString v.failing ++ " mismatch(es), " ++ toString v.matching
        ++ " match(es)") notSafe

/-- The summary says what there is to say. -/
theorem exists_sums (v : Verdict) :
    ∃ count advice, summaryLines v = [count, advice] ∧ Sums v count advice := by
  rw [summaryLines]
  cases hpassed : v.passed with
  | true => exact ⟨_, _, rfl, .passed (v.failing_eq_zero.mpr hpassed)⟩
  | false =>
      refine ⟨_, _, rfl, .failed fun hzero => ?_⟩
      rw [v.failing_eq_zero.mp hzero] at hpassed
      cases hpassed

/-- The advice is the one to release just when nothing fails. -/
theorem Sums.advice_eq_safe {v : Verdict} {count advice : String} (h : Sums v count advice) :
    advice = safe ↔ v.failing = 0 := by
  cases h with
  | passed hzero => exact ⟨fun _ => hzero, fun _ => rfl⟩
  | failed hne =>
      have hapart : notSafe ≠ safe := by decide
      exact ⟨fun heq => absurd heq hapart, fun hzero => absurd hzero hne⟩

theorem not_mem_summaryLines (v : Verdict) : ∀ line ∈ summaryLines v, '\n' ∉ line.toList := by
  have hmatching := not_mem_toString v.matching
  have hfailing := not_mem_toString v.failing
  rw [summaryLines]
  cases v.passed with
  | true =>
      have hsafe : '\n' ∉ safe.toList := by decide
      simp only [↓reduceIte, List.forall_mem_cons, String.toList_append, List.mem_append, not_or]
      exact ⟨⟨⟨by decide, hmatching⟩, by decide⟩, hsafe, List.forall_mem_nil _⟩
  | false =>
      have hnotSafe : '\n' ∉ notSafe.toList := by decide
      simp only [Bool.false_eq_true, ↓reduceIte, List.forall_mem_cons, String.toList_append,
        List.mem_append, not_or]
      exact ⟨⟨⟨⟨⟨by decide, hfailing⟩, by decide⟩, hmatching⟩, by decide⟩, hnotSafe,
        List.forall_mem_nil _⟩

/-- A block on tellable outcomes is seen line by line. -/
theorem linesOf_results {v : Verdict} (h : ∀ o ∈ v.outcomes, Tellable o) (rs : Rules) :
    Text.linesOf (results v rs) = resultLines v rs ++ [""] := by
  refine linesOf_ofLines fun line hline => ?_
  rw [resultLines, List.mem_append, List.mem_append, List.mem_append, List.mem_singleton,
    List.mem_singleton, List.mem_flatMap] at hline
  rcases hline with ((rfl | ⟨o, ho, hline⟩) | rfl) | hline
  · decide
  · exact not_mem_outcomeLines (h o ho) line hline
  · decide
  · exact not_mem_summaryLines v line hline

end Report

namespace Validation

open Report

variable {p : Profile} {rs : Rules}

/-- What is compared belongs to a role of the profile. -/
theorem exists_rule_of_outcome (hrs : p.compile = .ok rs) {s : Snapshot} {r : Required}
    (h : Required.resolve s s.stream rs.profile = .ok r) (refs : References) {o : RoleOutcome}
    (ho : o ∈ (verdictOf r refs).outcomes) :
    ∃ rule ∈ p.roles, rule.role = o.role ∧ sourceOf rs o.role = rule.manifest.label := by
  obtain ⟨given, hgiven, rfl⟩ := List.mem_map.mp ho
  have hrole := List.mem_map_of_mem (f := Prod.fst) hgiven
  rw [Required.map_fst_of_resolve h, ((Profile.compile_eq_ok _ _).mp hrs).1] at hrole
  obtain ⟨rule, hrule, heq⟩ := List.mem_map.mp hrole
  refine ⟨rule, hrule, heq, ?_⟩
  show sourceOf rs given.1 = _
  rw [← heq, sourceOf_of_mem hrs hrule]

/-- The block of a verdict tells each outcome in its turn and sums up their counts, which are those
of its lines and decide the advice and the exit status. A digest that is missing is told with the
manifest that the rule of its role reads; in a validation every role has one. -/
theorem results_tell_verdict (hrs : p.compile = .ok rs) :
    (∀ v : Verdict, (∀ o ∈ v.outcomes, Tellable o) → ∃ blocks count advice,
      List.Forall₂ (Tells p) v.outcomes blocks
        ∧ Text.linesOf (results v rs)
          = "=== Validation Results ===" :: blocks.flatten ++ ["", count, advice, ""]
        ∧ Sums v count advice
        ∧ (Text.linesOf (results v rs)).countP (Text.begins "PASS: ") = v.matching
        ∧ (Text.linesOf (results v rs)).countP (Text.begins "FAIL: ") = v.failing
        ∧ v.matching ≤ v.outcomes.length ∧ v.matching + v.failing = v.outcomes.length
        ∧ (advice = safe ↔ v.failing = 0) ∧ (v.failing = 0 ↔ v.passed = true)
        ∧ (v.passed = true ↔ v.exitStatus = 0))
    ∧ (∀ r ∈ p.roles, sourceOf rs r.role = r.manifest.label)
    ∧ (∀ raw s r refs, Surveys raw rs s r → ∀ o ∈ (verdictOf r refs).outcomes,
      ∃ rule ∈ p.roles, rule.role = o.role ∧ sourceOf rs o.role = rule.manifest.label)
    ∧ ∀ raw extractor w v, ((validate raw extractor rs).exec w).1 = .ok v → ∀ o ∈ v.outcomes,
      ∃ rule ∈ p.roles, rule.role = o.role ∧ sourceOf rs o.role = rule.manifest.label := by
  refine ⟨fun v hv => ?_, fun r hr => sourceOf_of_mem hrs hr, fun raw s r refs h o ho => ?_,
    fun raw extractor w v hv o ho => ?_⟩
  · obtain ⟨count, advice, hsummary, hsums⟩ := exists_sums v
    refine ⟨v.outcomes.map (outcomeLines rs), count, advice, ?_, ?_, hsums, ?_, ?_,
      v.matching_le, v.matching_add_failing, hsums.advice_eq_safe, v.failing_eq_zero,
      v.exitStatus_eq_passed.symm⟩
    · exact List.forall₂_map_right_iff.mpr
        (List.forall₂_same.mpr fun o _ => tells_outcomeLines hrs o)
    · -- the blocks of the outcomes stand between the heading and the summary
      rw [linesOf_results hv, resultLines, hsummary, List.flatMap_def]
      simp
    · rw [linesOf_results hv, countP_pass]
    · rw [linesOf_results hv, countP_fail]
  · exact exists_rule_of_outcome hrs h.resolved refs ho
  · obtain ⟨s, r, refs, h, -, rfl⟩ := exists_surveys_of_ok hv
    exact exists_rule_of_outcome hrs h.resolved refs ho

namespace Sample

/-- A verdict with each kind of outcome. -/
def mixed : Verdict :=
  ⟨[⟨"operator", some "o", some "o"⟩, ⟨"agent", none, some "a"⟩, ⟨"daemon", some "d", none⟩]⟩

theorem mixed_tellable : ∀ o ∈ mixed.outcomes, Tellable o := by
  have h : ∀ o ∈ mixed.outcomes, '\n' ∉ o.role.toList
      ∧ '\n' ∉ (o.expected.getD "").toList ∧ '\n' ∉ (o.actual.getD "").toList := by
    decide
  intro o ho
  obtain ⟨hrole, hexpected, hactual⟩ := h o ho
  exact ⟨hrole, fun d hd => by rwa [hd] at hexpected, fun d hd => by rwa [hd] at hactual⟩

end Sample

theorem sample_results_tell_verdict : ∃ rs, Profile.builtIn.compile = .ok rs
    ∧ (∀ o ∈ Sample.mixed.outcomes, Tellable o)
    ∧ (Text.linesOf (results Sample.mixed rs)).countP (Text.begins "PASS: ") = 1
    ∧ (Text.linesOf (results Sample.mixed rs)).countP (Text.begins "FAIL: ") = 2 := by
  obtain ⟨rs, hrs⟩ := Profile.exists_compile_builtIn
  obtain ⟨-, -, -, -, -, -, hpass, hfail, -⟩ :=
    (results_tell_verdict hrs).1 Sample.mixed Sample.mixed_tellable
  exact ⟨rs, hrs, Sample.mixed_tellable, hpass.trans (by decide), hfail.trans (by decide)⟩

end Validation

end ReleaseGate
