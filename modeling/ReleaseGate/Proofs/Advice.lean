import ReleaseGate.Proofs.Lines
import ReleaseGate.Proofs.WellFormed

/-!
# The advice to release

A validation that passes ends its report with the advice to release the snapshot, on a line of its
own. The report quotes texts of the snapshot as they stand there, and such a text may hold line
feeds: then whatever is behind them fills lines that look like any other. So the advice can be read
in a report that ends in a failure. The lines that the report is put together of all begin otherwise
than the advice, but for the last of a passing verdict, so it can be read in the places where a text
is quoted and nowhere else.
-/

namespace ReleaseGate

/-! ## Reports and the texts they quote -/

namespace Report

/-- The advice to release is one of the lines of a text. -/
def Advises (text : String) : Prop :=
  safe ∈ Text.linesOf text

/-- The advice fills a line of a text that is not its first. -/
def Hides (text : String) : Prop :=
  safe ∈ (Text.linesOf text).tail

instance (text : String) : Decidable (Advises text) :=
  inferInstanceAs (Decidable (safe ∈ Text.linesOf text))

theorem not_hides {text : String} (h : '\n' ∉ text.toList) : ¬ Hides text := by
  rw [Hides, Text.linesOf_of_not_mem h]
  exact List.not_mem_nil

theorem advises_ofLines_append (lines : List String) (text : String) :
    Advises (ofLines lines ++ text) ↔ (∃ line ∈ lines, Advises line) ∨ Advises text := by
  simp [Advises, linesOf_ofLines_append]

theorem not_advises_empty : ¬ Advises "" := by
  decide

theorem advises_ofLines (lines : List String) :
    Advises (ofLines lines) ↔ ∃ line ∈ lines, Advises line := by
  have h := advises_ofLines_append lines ""
  rwa [String.append_empty, or_iff_left not_advises_empty] at h

/-- A text that begins a line otherwise than the advice does: without a line feed, and with another
character. -/
structure Leads (label : String) : Prop where
  oneLine : '\n' ∉ label.toList
  begins : label.toList.head? ≠ none
  otherwise : label.toList.head? ≠ some 'T'

instance (label : String) : Decidable (Leads label) :=
  decidable_of_iff
    ('\n' ∉ label.toList ∧ label.toList.head? ≠ none ∧ label.toList.head? ≠ some 'T')
    ⟨fun h => ⟨h.1, h.2.1, h.2.2⟩, fun h => ⟨h.1, h.2, h.3⟩⟩

namespace Leads

variable {label : String}

/-- What follows does not change how a line begins. -/
theorem head?_append (h : Leads label) (rest : List Char) :
    (label.toList ++ rest).head? = label.toList.head? := by
  obtain ⟨c, hc⟩ := Option.ne_none_iff_exists'.mp h.begins
  rw [List.head?_append, hc]
  rfl

theorem not_prefix (h : Leads label) : ¬ label.toList <+: safe.toList := by
  rintro ⟨rest, hrest⟩
  have hhead : safe.toList.head? = some 'T' := by decide
  rw [← hrest, h.head?_append] at hhead
  exact h.otherwise hhead

theorem append (h : Leads label) {text : String} (htext : '\n' ∉ text.toList) :
    Leads (label ++ text) := by
  have hhead := h.head?_append text.toList
  rw [← String.toList_append] at hhead
  refine ⟨?_, hhead ▸ h.begins, hhead ▸ h.otherwise⟩
  rw [String.toList_append, List.mem_append]
  exact not_or.mpr ⟨h.oneLine, htext⟩

end Leads

/-- A line that begins otherwise shows the advice only if it quotes a text that hides it. -/
theorem advises_append {label : String} (h : Leads label) (text : String) :
    Advises (label ++ text) ↔ Hides text :=
  Text.mem_linesOf_append h.oneLine h.not_prefix text

theorem not_advises {line : String} (h : Leads line) : ¬ Advises line := by
  rw [← String.append_empty (s := line), advises_append h]
  exact not_hides List.not_mem_nil

theorem advises_digestOrNone {label : String} (h : Leads label) (digest : Option String) :
    Advises (label ++ digestOrNone digest) ↔ ∃ d, digest = some d ∧ Hides d := by
  rw [advises_append h]
  cases digest with
  | none => simp [digestOrNone, not_hides]
  | some d => simp [digestOrNone]

theorem advises_header (s : Snapshot) (text : String) :
    Advises (header s ++ text) ↔ Hides s.application ∨ Advises text := by
  have hfirst : Leads "=== Validating Snapshot ===" := by decide
  have happlication : Leads "Application: " := by decide
  have hstream : Leads ("Stream: " ++ s.stream.name) := by
    cases s.stream <;> decide
  simp [header, advises_ofLines_append, headerLines, not_advises hfirst,
    advises_append happlication, not_advises hstream, not_advises_empty]

theorem advises_missingComponents {missing : List String}
    (h : '\n' ∉ (Text.joined ", " missing).toList) (names : List String) :
    Advises (missingComponents missing names) ↔ ∃ name ∈ names, Hides name := by
  have herror : Leads "ERROR: Missing required components: " := by decide
  have htitle : Leads "Available components:" := by decide
  have hnone : Leads "  (none)" := by decide
  have hitem : Leads "  - " := by decide
  cases names with
  | nil => simp [missingComponents, advises_ofLines, missingLines, not_advises (herror.append h),
      not_advises hnone, not_advises htitle, not_advises_empty]
  | cons name names => simp [missingComponents, advises_ofLines, missingLines,
      not_advises (herror.append h), not_advises htitle, advises_append hitem, not_advises_empty]

theorem advises_target (image text : String) :
    Advises (target image ++ text) ↔ Hides image ∨ Advises text := by
  have htitle : Leads "Extracting bundle manifests from:" := by decide
  have himage : Leads "  " := by decide
  simp [target, advises_ofLines_append, targetLines, not_advises htitle, advises_append himage,
    not_advises_empty]

/-- A row quotes its digest. -/
theorem advises_row (width : Nat) {label : String} (h : '\n' ∉ label.toList)
    (digest : Option String) :
    Advises (row width label digest) ↔ ∃ d, digest = some d ∧ Hides d := by
  have hindent : Leads "  " := by decide
  have hcolumn : '\n' ∉ (Text.padRight width (label ++ ":")).toList := by
    simp [Text.padRight, h]
  exact advises_digestOrNone (hindent.append hcolumn) digest

/-- A role that can be named on one line. -/
structure OneLine (role : String) : Prop where
  name : '\n' ∉ role.toList
  title : '\n' ∉ (Text.capitalised role).toList

theorem advises_digests {r : Required} (h : ∀ given ∈ r.roles, OneLine given.1) (text : String) :
    Advises (digests r ++ text) ↔
      (∃ given ∈ r.roles, ∃ d, given.2.digest = some d ∧ Hides d)
        ∨ (∃ d, r.bundle.digest = some d ∧ Hides d) ∨ Advises text := by
  have htitle : Leads "Snapshot contains:" := by decide
  have hlabel : '\n' ∉ "Bundle".toList := by decide
  have hroles : (∃ given ∈ r.roles,
        Advises (row digestWidth (Text.capitalised given.1) given.2.digest))
      ↔ ∃ given ∈ r.roles, ∃ d, given.2.digest = some d ∧ Hides d :=
    exists_congr fun given => and_congr_right fun hgiven =>
      advises_row digestWidth (h given hgiven).title given.2.digest
  simp only [Prod.exists] at hroles
  simp [digests, advises_ofLines_append, digestLines, or_and_right, exists_or, not_advises htitle,
    advises_row digestWidth hlabel, hroles, not_advises_empty, or_assoc]

theorem not_mem_label (m : Manifest) : '\n' ∉ m.label.toList := by
  cases m <;> decide

theorem not_mem_sourceOf (rs : Rules) (role : String) : '\n' ∉ (sourceOf rs role).toList := by
  rw [sourceOf]
  cases rs.rule? role with
  | none => decide
  | some r => exact not_mem_label r.manifest

section

variable {rs : Rules}

/-- The digests of the references hide nothing, and neither do their labels. -/
theorem advises_references {refs : References} (h : ∀ r ∈ rs.profile.roles, OneLine r.role)
    (hrefs : ∀ role d, refs.get? role = some d → ¬ Hides d) (text : String) :
    Advises (references refs rs ++ text) ↔ Advises text := by
  have htitle : Leads "Bundle references:" := by decide
  rw [references, advises_ofLines_append]
  refine or_iff_right ?_
  rintro ⟨line, hline, hadvises⟩
  rcases List.mem_append.mp hline with hline | hline
  · rcases List.mem_append.mp hline with hline | hline
    · rw [List.mem_singleton.mp hline] at hadvises
      exact not_advises htitle hadvises
    · obtain ⟨r, hr, rfl⟩ := List.mem_map.mp hline
      have hlabel : '\n' ∉ (r.manifest.label ++ " " ++ r.title).toList := by
        simp [not_mem_label, Rule.title, (h r hr).title]
      obtain ⟨d, hd, hhides⟩ := (advises_row referenceWidth hlabel _).mp hadvises
      exact hrefs r.role d hd hhides
  · rw [List.mem_singleton.mp hline] at hadvises
    exact not_advises_empty hadvises

/-- Of two digests that differ, the one in the snapshot may hide the advice. -/
theorem advises_outcome {o : RoleOutcome} (h : OneLine o.role)
    (hactual : ∀ d, o.actual = some d → ¬ Hides d) :
    (∃ line ∈ outcomeLines rs o, Advises line) ↔
      o.outcome = .different ∧ ∃ d, o.expected = some d ∧ Hides d := by
  rw [outcomeLines]
  cases o.outcome with
  | same =>
      have hpass : Leads "PASS: " := by decide
      have hmatches : '\n' ∉ " matches".toList := by decide
      simp [not_advises ((hpass.append h.title).append hmatches)]
  | different =>
      have hfail : Leads "FAIL: " := by decide
      have hmismatch : '\n' ∉ " mismatch".toList := by decide
      have hwants : Leads "  Bundle wants:  " := by decide
      have hhas : Leads "  Snapshot has:  " := by decide
      have hnone : ¬ ∃ d, o.actual = some d ∧ Hides d := fun ⟨d, hd, hhides⟩ => hactual d hd hhides
      rw [← advises_digestOrNone hwants] at hnone
      simp [not_advises ((hfail.append h.title).append hmismatch), hnone, advises_digestOrNone hhas]
  | missing =>
      have hfail : Leads "FAIL: Could not extract " := by decide
      have hfrom : '\n' ∉ " reference from ".toList := by decide
      have hline := ((hfail.append h.name).append hfrom).append (not_mem_sourceOf rs o.role)
      simp [not_advises hline]

theorem not_mem_toString (n : Nat) : '\n' ∉ (toString n).toList := by
  intro h
  rw [Nat.toString_eq_ofList_toDigits, String.toList_ofList] at h
  have hdigit := Nat.isDigit_of_mem_toDigits (by decide) (by decide) h
  revert hdigit
  decide

/-- The summary gives the advice when the verdict passes. -/
theorem advises_summary (v : Verdict) :
    (∃ line ∈ summaryLines v, Advises line) ↔ v.passed = true := by
  rw [summaryLines]
  cases v.passed with
  | false =>
      have hfailed : Leads "FAILED: " := by decide
      have hmismatches : '\n' ∉ " mismatch(es), ".toList := by decide
      have hmatches : '\n' ∉ " match(es)".toList := by decide
      have hcounts := ((hfailed.append (not_mem_toString v.failing)).append hmismatches).append
        (not_mem_toString v.matching)
      have hline := hcounts.append hmatches
      have hnotSafe : ¬ Advises notSafe := by decide
      simp only [Bool.false_eq_true, if_false, List.mem_cons, exists_eq_or_imp, not_advises hline,
        hnotSafe]
      simp
  | true =>
      have hsafe : Advises safe := by decide
      simp [hsafe]

theorem advises_results {v : Verdict} (h : ∀ o ∈ v.outcomes, OneLine o.role)
    (hactual : ∀ o ∈ v.outcomes, ∀ d, o.actual = some d → ¬ Hides d) :
    Advises (results v rs) ↔
      v.passed = true
        ∨ ∃ o ∈ v.outcomes, o.outcome = .different ∧ ∃ d, o.expected = some d ∧ Hides d := by
  have htitle : Leads "=== Validation Results ===" := by decide
  have houtcomes : (∃ line ∈ v.outcomes.flatMap (outcomeLines rs), Advises line)
      ↔ ∃ o ∈ v.outcomes, o.outcome = .different ∧ ∃ d, o.expected = some d ∧ Hides d := by
    constructor
    · rintro ⟨line, hline, hadvises⟩
      obtain ⟨o, ho, hline⟩ := List.mem_flatMap.mp hline
      exact ⟨o, ho, (advises_outcome (h o ho) (hactual o ho)).mp ⟨line, hline, hadvises⟩⟩
    · rintro ⟨o, ho, hhides⟩
      obtain ⟨line, hline, hadvises⟩ := (advises_outcome (h o ho) (hactual o ho)).mpr hhides
      exact ⟨line, List.mem_flatMap.mpr ⟨o, ho, hline⟩, hadvises⟩
  rw [results, advises_ofLines, ← advises_summary, or_comm]
  simp only [resultLines, List.mem_append, or_and_right, exists_or, List.mem_singleton,
    exists_eq_left, houtcomes, not_advises htitle, not_advises_empty, false_or, or_false]

end

end Report

/-! ## What a validation quotes -/

namespace Validation

/-- The texts of a snapshot that the report of its validation quotes. -/
inductive Quotes (rs : Rules) (s : Snapshot) : String → Prop where
  | application : Quotes rs s s.application
  | available {absent : List String} {name : String} :
      Required.resolve s s.stream rs.profile = .error absent → name ∈ s.names → Quotes rs s name
  | roleDigest {r : Required} {given : String × Component} {d : String} :
      Required.resolve s s.stream rs.profile = .ok r → given ∈ r.roles →
      given.2.digest = some d → Quotes rs s d
  | bundleDigest {r : Required} {d : String} :
      Required.resolve s s.stream rs.profile = .ok r → r.bundle.digest = some d → Quotes rs s d
  | bundleImage {r : Required} :
      Required.resolve s s.stream rs.profile = .ok r → Quotes rs s r.bundle.image

open Report

variable {rs : Rules}

theorem oneLine_of_builtIn : ∀ r ∈ Profile.builtIn.roles, OneLine r.role := by
  have h : ∀ r ∈ Profile.builtIn.roles, '\n' ∉ r.role.toList := by decide
  exact fun r hr => ⟨h r hr, Text.not_mem_capitalised (h r hr)⟩

/-- The keys that the built-in profile needs are told on one line. -/
theorem not_mem_joined_missing (s : Snapshot) :
    '\n' ∉ (Text.joined ", " (Required.missing s Profile.builtIn s.stream)).toList := by
  have hkeys : ∀ stream, ∀ key ∈ Required.keys Profile.builtIn stream, '\n' ∉ key.toList := by
    intro stream
    cases stream <;> decide
  refine Text.not_mem_joined (by decide) fun key hkey => hkeys s.stream key ?_
  exact (Required.mem_missing.mp hkey).1

theorem not_hides_of_isSha256 {d : String} (h : Digest.isSha256 d = true) : ¬ Hides d := by
  refine not_hides fun hfeed => ?_
  have hblank := (Digest.plain_of_isSha256 h _ hfeed).notBlank
  revert hblank
  decide

section

variable {s : Snapshot}

theorem exists_quotes_of_missing {absent : List String}
    (h : Required.resolve s s.stream rs.profile = .error absent) :
    (∃ text, Quotes rs s text ∧ Hides text)
      ↔ Hides s.application ∨ ∃ name ∈ s.names, Hides name := by
  constructor
  · rintro ⟨text, hquotes, hhides⟩
    cases hquotes with
    | application => exact .inl hhides
    | available _ hname => exact .inr ⟨text, hname, hhides⟩
    | roleDigest hresolved => cases h.symm.trans hresolved
    | bundleDigest hresolved => cases h.symm.trans hresolved
    | bundleImage hresolved => cases h.symm.trans hresolved
  · rintro (hhides | ⟨name, hname, hhides⟩)
    · exact ⟨_, .application, hhides⟩
    · exact ⟨_, .available h hname, hhides⟩

theorem exists_quotes_of_resolved {r : Required}
    (h : Required.resolve s s.stream rs.profile = .ok r) :
    (∃ text, Quotes rs s text ∧ Hides text)
      ↔ Hides s.application ∨ (∃ given ∈ r.roles, ∃ d, given.2.digest = some d ∧ Hides d)
        ∨ (∃ d, r.bundle.digest = some d ∧ Hides d) ∨ Hides r.bundle.image := by
  constructor
  · rintro ⟨text, hquotes, hhides⟩
    cases hquotes with
    | application => exact .inl hhides
    | available hmissing => cases h.symm.trans hmissing
    | roleDigest hresolved hgiven hd =>
        cases h.symm.trans hresolved
        exact .inr (.inl ⟨_, hgiven, text, hd, hhides⟩)
    | bundleDigest hresolved hd =>
        cases h.symm.trans hresolved
        exact .inr (.inr (.inl ⟨text, hd, hhides⟩))
    | bundleImage hresolved =>
        cases h.symm.trans hresolved
        exact .inr (.inr (.inr hhides))
  · rintro (hhides | ⟨given, hgiven, d, hd, hhides⟩ | ⟨d, hd, hhides⟩ | hhides)
    · exact ⟨_, .application, hhides⟩
    · exact ⟨_, .roleDigest h hgiven hd, hhides⟩
    · exact ⟨_, .bundleDigest h hd, hhides⟩
    · exact ⟨_, .bundleImage h, hhides⟩

end

/-- What an extraction finds under the built-in profile hides nothing. -/
theorem not_hides_of_extracted (hrs : Profile.builtIn.compile = .ok rs) {extractor : Extractor}
    {image : String} {t : Temporary} {refs : References}
    (hx : extracted extractor rs image t = .ok refs) {role d : String}
    (hd : refs.get? role = some d) : ¬ Hides d := by
  obtain ⟨-, hchecked⟩ := (Profile.compile_eq_ok _ _).mp hrs
  obtain ⟨m, -, rfl⟩ := (extracted_eq_ok hchecked.sound (temporary_of_extracted hx)).mp hx
  have hform := References.wellFormed_of_builtIn hrs m role d (References.mem_of_get? hd)
  exact not_hides_of_isSha256 hform.1

theorem oneLine_of_resolved (hrs : Profile.builtIn.compile = .ok rs) {s : Snapshot} {r : Required}
    (h : Required.resolve s s.stream rs.profile = .ok r) : ∀ given ∈ r.roles, OneLine given.1 := by
  intro given hgiven
  have hrole := List.mem_map_of_mem (f := Prod.fst) hgiven
  rw [Required.map_fst_of_resolve h, ((Profile.compile_eq_ok _ _).mp hrs).1] at hrole
  obtain ⟨rule, hrule, heq⟩ := List.mem_map.mp hrole
  rw [← heq]
  exact oneLine_of_builtIn rule hrule

/-- Before the extraction, the advice stands in quoted texts only. -/
theorem advises_preface (hrs : Profile.builtIn.compile = .ok rs) {s : Snapshot} {r : Required}
    (h : Required.resolve s s.stream rs.profile = .ok r) (text : String) :
    Advises (preface s r ++ text) ↔
      (∃ quoted, Quotes rs s quoted ∧ Hides quoted) ∨ Advises text := by
  rw [preface, String.append_assoc, String.append_assoc, advises_header,
    advises_digests (oneLine_of_resolved hrs h), advises_target, exists_quotes_of_resolved h]
  simp only [or_assoc]

/-- Behind the extraction, the advice is given or stands in a digest of the snapshot. -/
theorem advises_conclusion (hrs : Profile.builtIn.compile = .ok rs) {extractor : Extractor}
    {t : Temporary} {s : Snapshot} {r : Required} {refs : References}
    (hresolved : Required.resolve s s.stream rs.profile = .ok r)
    (hx : extracted extractor rs r.bundle.image t = .ok refs) :
    Advises (conclusion r refs rs) ↔ (verdictOf r refs).passed = true
      ∨ ∃ o ∈ (verdictOf r refs).outcomes, o.outcome = .different
        ∧ ∃ d, o.expected = some d ∧ Hides d := by
  have hprofile := ((Profile.compile_eq_ok _ _).mp hrs).1
  have hhides : ∀ role d, refs.get? role = some d → ¬ Hides d :=
    fun role d hd => not_hides_of_extracted hrs hx hd
  have hroles := oneLine_of_resolved hrs hresolved
  rw [conclusion, advises_references (hprofile ▸ oneLine_of_builtIn) hhides]
  refine advises_results ?_ ?_
  · intro o ho
    obtain ⟨given, hgiven, rfl⟩ := List.mem_map.mp ho
    exact hroles given hgiven
  · intro o ho d hd
    obtain ⟨given, hgiven, rfl⟩ := List.mem_map.mp ho
    exact hhides given.1 d hd

/-- What the conclusion quotes, the preface has quoted already. -/
theorem quotes_of_outcome {s : Snapshot} {r : Required} {refs : References}
    (hresolved : Required.resolve s s.stream rs.profile = .ok r) {o : RoleOutcome}
    (ho : o ∈ (verdictOf r refs).outcomes) {d : String} (hd : o.expected = some d) :
    Quotes rs s d := by
  obtain ⟨given, hgiven, rfl⟩ := List.mem_map.mp ho
  exact .roleDigest hresolved hgiven hd

/-- The text of a course shows the advice when the course passes, or when a text that it quotes
hides it. -/
theorem advises_course (hrs : Profile.builtIn.compile = .ok rs) (raw : String)
    (extractor : Extractor) (t : Temporary) :
    Advises (course raw extractor rs t).text ↔
      (∃ v, (course raw extractor rs t).result = .ok v ∧ v.exitStatus = exitPassed)
        ∨ ∃ s, (Snapshot.read raw).2 = .ok s ∧ ∃ text, Quotes rs s text ∧ Hides text := by
  cases hread : (Snapshot.read raw).2 with
  | error f =>
      have hcourse : course raw extractor rs t = ⟨"", .error f⟩ := by
        rw [course, hread]
      rw [hcourse]
      simp [Course.text, Course.after, Course.result, not_advises_empty]
  | ok s =>
      simp only [Except.ok.injEq, exists_eq_left']
      cases hresolved : Required.resolve s s.stream rs.profile with
      | error absent =>
          obtain ⟨hprofile, -⟩ := (Profile.compile_eq_ok _ _).mp hrs
          have hjoined := not_mem_joined_missing s
          rw [← hprofile, ← (Required.resolve_eq_error hresolved).1] at hjoined
          rw [course_of_missing extractor t hread hresolved, exists_quotes_of_missing hresolved]
          simp [Course.text, Course.after, Course.result, advises_header,
            advises_missingComponents hjoined]
      | ok r =>
          rw [course_of_surveys extractor t ⟨hread, hresolved⟩]
          cases hx : extracted extractor rs r.bundle.image t with
          | error f =>
              show Advises (preface s r ++ "") ↔ (∃ v, Except.error f = .ok v ∧ _) ∨ _
              rw [advises_preface hrs hresolved, or_iff_left not_advises_empty]
              simp
          | ok refs =>
              show Advises (preface s r ++ conclusion r refs rs)
                ↔ (∃ v, Except.ok (verdictOf r refs) = .ok v ∧ _) ∨ _
              rw [advises_preface hrs hresolved, advises_conclusion hrs hresolved hx]
              simp only [Except.ok.injEq, exists_eq_left', Verdict.exitStatus_eq_passed]
              constructor
              · rintro (hquoted | hpassed | ⟨o, ho, -, d, hd, hhides⟩)
                · exact .inr hquoted
                · exact .inl hpassed
                · exact .inr ⟨d, quotes_of_outcome hresolved ho hd, hhides⟩
              · rintro (hpassed | hquoted)
                · exact .inr (.inl hpassed)
                · exact .inl hquoted

/-- The advice is one of the lines of a report just when the validation passes, or when it stands
behind a line feed in a text of the snapshot that the report quotes. -/
theorem advice_given_or_quoted (hrs : Profile.builtIn.compile = .ok rs) {w : World}
    (hw : w.Writable) (raw : String) (extractor : Extractor) :
    ∃ text, ((validate raw extractor rs).exec w).2.sink.written
        = w.sink.written ++ Text.encode text
      ∧ (Advises text ↔ Passes ((validate raw extractor rs).exec w)
        ∨ ∃ s, (Snapshot.read raw).2 = .ok s ∧ ∃ quoted, Quotes rs s quoted ∧ Hides quoted) := by
  have hends : Ends ((validate raw extractor rs).exec w) w _ _ _ := ends_of_course_eq hw rfl rfl
  refine ⟨_, hends.written, ?_⟩
  rw [Passes, hends.result]
  exact advises_course hrs raw extractor w.temporary

namespace Sample

/-- The text of a snapshot without components whose application hides the advice. -/
def forged : String :=
  "[\"ystream\\nThis snapshot is self-consistent and safe to release.\", []]"

/-- This snapshot. -/
def forging : Snapshot :=
  ⟨"ystream\nThis snapshot is self-consistent and safe to release.", .minor, []⟩

theorem read_forged : (Snapshot.read forged).2 = .ok forging := by
  decide +kernel

theorem hides_forging : Hides forging.application := by
  rw [Hides]
  decide

end Sample

theorem sample_advice_given_or_quoted : ∃ rs text, Profile.builtIn.compile = .ok rs
    ∧ Sample.world.Writable
    ∧ ((validate Sample.forged Sample.citing rs).exec Sample.world).2.sink.written
      = Sample.world.sink.written ++ Text.encode text
    ∧ Advises text := by
  obtain ⟨rs, hrs⟩ := Profile.exists_compile_builtIn
  have hw := Sample.world_ready.writable
  obtain ⟨text, hwritten, hadvises⟩ := advice_given_or_quoted hrs hw Sample.forged Sample.citing
  exact ⟨rs, text, hrs, hw, hwritten, hadvises.mpr
    (.inr ⟨_, Sample.read_forged, _, .application, Sample.hides_forging⟩)⟩

/-- The advice can be a line of the report on a snapshot that does not pass. -/
theorem advice_can_be_forged : ∃ rs text, Profile.builtIn.compile = .ok rs
    ∧ Sample.world.Writable
    ∧ ((validate Sample.forged Sample.citing rs).exec Sample.world).2.sink.written
      = Sample.world.sink.written ++ Text.encode text
    ∧ Advises text
    ∧ ¬ Passes ((validate Sample.forged Sample.citing rs).exec Sample.world) := by
  obtain ⟨rs, hrs⟩ := Profile.exists_compile_builtIn
  have hw := Sample.world_ready.writable
  have hends : Ends ((validate Sample.forged Sample.citing rs).exec Sample.world) Sample.world
      _ _ _ := ends_of_course_eq hw rfl rfl
  have hadvises := (advises_course hrs Sample.forged Sample.citing Sample.world.temporary).mpr
    (.inr ⟨_, Sample.read_forged, _, .application, Sample.hides_forging⟩)
  refine ⟨rs, _, hrs, hw, hends.written, hadvises, ?_⟩
  -- without components there is no bundle to extract from, so there is no verdict
  rintro ⟨v, hv, -⟩
  obtain ⟨s, r, -, hsurveys, -, -⟩ := exists_surveys_of_ok hv
  have hs : Sample.forging = s := Except.ok.inj (Sample.read_forged.symm.trans hsurveys.read)
  have hlisted := hsurveys.isBundle.listed
  rw [← hs] at hlisted
  exact List.not_mem_nil hlisted

end Validation

end ReleaseGate
