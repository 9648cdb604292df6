import ReleaseGate.Proofs.Codes
import ReleaseGate.Proofs.Compiled
import ReleaseGate.Proofs.Stages

/-!
# Verdicts — what a verdict says, and when there is one

The outcomes of a verdict stand beside the roles of the profile. Each compares what pins the image
of the role's component with what the role's own pattern takes from the manifest it names: the roles
have distinct names, so no lookup by role can go astray. There is a verdict just when the snapshot
can be read and is complete and both manifests are there.
-/

namespace ReleaseGate

/-- An extraction has gone well and has left two manifests. -/
structure Extraction.Leaves (e : Extraction) (p : Profile) (m : ByManifest) : Prop where
  succeeded : e.failure = none
  clusterServiceVersion :
    e.made.HasFile p.fileNames.clusterServiceVersion (Text.encode m.clusterServiceVersion)
  configMap : e.made.HasFile p.fileNames.configMap (Text.encode m.configMap)

/-- An extraction yields manifests just when it leaves them. -/
theorem Extraction.yields_eq_ok_iff_leaves {e : Extraction} {p : Profile} {m : ByManifest}
    (hp : p.defect? = none) (shown : String) : e.yields p shown = .ok m ↔ e.Leaves p m := by
  obtain ⟨-, -, hcsv, hmap, -⟩ := (Profile.defect?_eq_none p).mp hp
  obtain ⟨hcsv, hcsv', -⟩ := (Profile.isFileName_iff _).mp hcsv
  obtain ⟨hmap, hmap', -⟩ := (Profile.isFileName_iff _).mp hmap
  rw [yields_eq_ok, textAt_eq_ok hcsv hcsv', textAt_eq_ok hmap hmap']
  exact ⟨fun ⟨h, h', h''⟩ => ⟨h, h', h''⟩, fun ⟨h, h', h''⟩ => ⟨h, h', h''⟩⟩

namespace RoleOutcome

variable (o : RoleOutcome)

theorem outcome_eq_missing : o.outcome = .missing ↔ o.actual = none := by
  rw [outcome, Outcome.ofDigests.eq_def]
  cases o.actual with
  | none => exact ⟨fun _ => rfl, fun _ => rfl⟩
  | some digest =>
      dsimp only
      by_cases hsame : o.expected = some digest
      · rw [if_pos hsame]
        exact ⟨fun h => (nomatch h), fun h => (nomatch h)⟩
      · rw [if_neg hsame]
        exact ⟨fun h => (nomatch h), fun h => (nomatch h)⟩

theorem outcome_eq_same :
    o.outcome = .same ↔ ∃ digest, o.expected = some digest ∧ o.actual = some digest := by
  rw [outcome, Outcome.ofDigests.eq_def]
  cases o.actual with
  | none => exact ⟨fun h => (nomatch h), fun ⟨_, _, h⟩ => (nomatch h)⟩
  | some digest =>
      dsimp only
      by_cases hsame : o.expected = some digest
      · rw [if_pos hsame]
        exact ⟨fun _ => ⟨digest, hsame, rfl⟩, fun _ => rfl⟩
      · rw [if_neg hsame]
        refine ⟨fun h => (nomatch h), ?_⟩
        rintro ⟨digest', hexpected, hactual⟩
        exact absurd (hexpected.trans hactual.symm) hsame

theorem outcome_eq_different :
    o.outcome = .different ↔ o.actual ≠ none ∧ o.expected ≠ o.actual := by
  rw [outcome, Outcome.ofDigests.eq_def]
  cases o.actual with
  | none => exact ⟨fun h => (nomatch h), fun h => absurd rfl h.1⟩
  | some digest =>
      dsimp only
      by_cases hsame : o.expected = some digest
      · rw [if_pos hsame]
        exact ⟨fun h => (nomatch h), fun h => absurd hsame h.2⟩
      · rw [if_neg hsame]
        exact ⟨fun _ => ⟨Option.some_ne_none _, hsame⟩, fun _ => rfl⟩

end RoleOutcome

/-- A verdict passes when no role is different or missing. -/
theorem Verdict.passed_iff (v : Verdict) :
    v.passed = true ↔ ∀ o ∈ v.outcomes, o.outcome = .same := by
  rw [passed, List.all_eq_true]
  exact forall₂_congr fun o _ => beq_iff_eq

theorem Verdict.exitStatus_eq_passed (v : Verdict) :
    v.exitStatus = exitPassed ↔ v.passed = true := by
  rw [exitStatus]
  cases v.passed with
  | false => exact ⟨fun h => (nomatch h), fun h => (nomatch h)⟩
  | true => exact ⟨fun _ => rfl, fun _ => rfl⟩

namespace Validation

/-- The outcome that a rule must have for a snapshot and two manifests. -/
structure IsOutcome (s : Snapshot) (m : ByManifest) (r : Rule) (o : RoleOutcome) : Prop where
  role : o.role = r.role
  /-- The digest that pins the image of the component with the rule's key. -/
  expected : ∃ c ∈ s.components, c.name = componentKey r.component s.stream
    ∧ ∀ digest, o.expected = some digest ↔ Digest.Pins digest c.image
  actual : ∃ pattern, Pattern.compile r.pattern = .ok pattern
    ∧ o.actual = pattern.capture? (m.get r.manifest)
  /-- It is what the first group of the rule's own pattern takes of the manifest that the rule
  names, in a match before which none begins. -/
  captured : ∃ core, Pattern.coreOfText r.pattern = .ok core
    ∧ core.Captures (m.get r.manifest) o.actual
  same : o.outcome = .same ↔ ∃ digest, o.expected = some digest ∧ o.actual = some digest
  missing : o.outcome = .missing ↔ o.actual = none
  different : o.outcome = .different ↔ o.actual ≠ none ∧ o.expected ≠ o.actual

/-- A rule that was given its component has the outcome it must have. -/
theorem isOutcome_of_isGiven {s : Snapshot} {rs : Rules} {m : ByManifest}
    {given : String × Component} (hrs : rs.Checked) (hnodup : s.names.Nodup)
    {c : Rule × Pattern} (hc : c ∈ rs.compiled)
    (hgiven : Required.IsGiven s s.stream c.1 given) :
    IsOutcome s m c.1 ⟨given.1, given.2.digest, (References.ofManifests rs m).get? given.1⟩ := by
  obtain ⟨hlisted, hnamed⟩ := (Snapshot.component?_eq_some hnodup _ _).mp hgiven.2
  have hactual : (References.ofManifests rs m).get? given.1
      = c.2.capture? (m.get c.1.manifest) := by
    rw [hgiven.1, hrs.get?_ofManifests m hc]
  refine ⟨hgiven.1, ⟨given.2, hlisted, hnamed, Digest.ofImage_eq_some given.2.image⟩,
    ⟨c.2, (hrs.each c hc).compiled, hactual⟩, ?_, RoleOutcome.outcome_eq_same _,
    RoleOutcome.outcome_eq_missing _, RoleOutcome.outcome_eq_different _⟩
  rw [hactual]
  exact Pattern.captures_capture? (hrs.each c hc).compiled _

/-- The outcomes of a verdict are those of the rules, one by one. -/
theorem forall₂_isOutcome {s : Snapshot} {rs : Rules} {r : Required} {m : ByManifest}
    (hrs : rs.Checked) (hnodup : s.names.Nodup)
    (hgiven : List.Forall₂ (Required.IsGiven s s.stream) rs.profile.roles r.roles) :
    List.Forall₂ (IsOutcome s m) rs.profile.roles
      (verdictOf r (References.ofManifests rs m)).outcomes := by
  rw [← hrs.aligned, List.forall₂_map_left_iff] at hgiven
  rw [verdictOf, ← hrs.aligned, List.forall₂_map_left_iff, List.forall₂_map_right_iff]
  -- each rule is known to be among the compiled ones where it is given its component
  have hmem := (List.forall₂_and_left _ _).mpr ⟨fun c (hc : c ∈ rs.compiled) => hc, hgiven⟩
  exact hmem.imp fun c given h => isOutcome_of_isGiven hrs hnodup h.1 h.2

section

variable {raw : String} {extractor : Extractor} {rs : Rules} {w : World}

/-- The references of a place for temporary files are those of the manifests that are left. -/
theorem extracted_eq_ok {image : String} {t : Temporary} {refs : References}
    (hp : rs.profile.defect? = none) (ht : t.entries ≠ none) :
    extracted extractor rs image t = .ok refs ↔
      ∃ m, (extractor image rs.profile.imagePath (Extraction.destination t)).Leaves rs.profile m
        ∧ refs = References.ofManifests rs m := by
  obtain ⟨d, hd⟩ := Option.ne_none_iff_exists'.mp ht
  rw [extracted, hd]
  simp only [← Extraction.yields_eq_ok_iff_leaves hp t.shownAs]
  cases (extractor image rs.profile.imagePath (Extraction.destination t)).yields rs.profile
      t.shownAs with
  | error f =>
      constructor
      · intro h
        cases h
      · rintro ⟨m, h, -⟩
        cases h
  | ok m =>
      constructor
      · intro h
        exact ⟨m, rfl, (Except.ok.inj h).symm⟩
      · rintro ⟨m', hm, hrefs⟩
        rw [hrefs, Except.ok.inj hm]
        rfl

/-- A course that foretells a verdict has components and references, and it is the one they make. -/
theorem result_course_eq_ok {t : Temporary} {v : Verdict} :
    (course raw extractor rs t).result = .ok v ↔ ∃ s r refs, Surveys raw rs s r
      ∧ extracted extractor rs r.bundle.image t = .ok refs ∧ v = verdictOf r refs := by
  by_cases hsurveys : ∃ s r, Surveys raw rs s r
  · obtain ⟨s, r, h⟩ := hsurveys
    rw [course_of_surveys extractor t h]
    show ((extracted extractor rs r.bundle.image t).map _).map Prod.snd = _ ↔ _
    constructor
    · intro hv
      cases hx : extracted extractor rs r.bundle.image t with
      | error f =>
          rw [hx] at hv
          cases hv
      | ok refs =>
          rw [hx] at hv
          exact ⟨s, r, refs, h, hx, (Except.ok.inj hv).symm⟩
    · rintro ⟨s', r', refs, h', hx, hv⟩
      -- a text has one snapshot, and that is given one set of components
      have hs : s = s' := Except.ok.inj (h.read.symm.trans h'.read)
      have hr : r = r' := Except.ok.inj (h.resolved.symm.trans (hs ▸ h'.resolved))
      rw [hr, hx, hv]
      rfl
  · obtain ⟨f, hrest⟩ := course_of_not_surveys extractor t hsurveys
    rw [Course.result, hrest]
    constructor
    · intro h
      cases h
    · rintro ⟨s, r, -, h, -⟩
      exact absurd ⟨s, r, h⟩ hsurveys

/-- Where writing never fails, there is a verdict just when the course foretells it. -/
theorem validate_eq_ok (hw : w.Writable) {v : Verdict} :
    ((validate raw extractor rs).exec w).1 = .ok v ↔ ∃ s r refs, Surveys raw rs s r
      ∧ extracted extractor rs r.bundle.image w.temporary = .ok refs ∧ v = verdictOf r refs := by
  rw [(ends_of_course_eq hw rfl rfl).result]
  exact result_course_eq_ok

/-- Whatever the sink does, a verdict has components and references, and it is the one they make. -/
theorem exists_surveys_of_ok {v : Verdict} (h : ((validate raw extractor rs).exec w).1 = .ok v) :
    ∃ s r refs, Surveys raw rs s r
      ∧ extracted extractor rs r.bundle.image w.temporary = .ok refs ∧ v = verdictOf r refs := by
  rw [(like_validate raw extractor rs w w (.refl w)).1] at h
  exact result_course_eq_ok.mp (Course.result_of_exec_ok h)

end

/-- When there is a verdict, and what it says. -/
theorem verdict_sound_and_complete {p : Profile} {rs : Rules} (hrs : p.compile = .ok rs)
    {w : World} (hw : w.Ready) (raw : String) (extractor : Extractor) :
    ((∃ v, ((validate raw extractor rs).exec w).1 = .ok v) ↔
      ∃ s, (Snapshot.read raw).2 = .ok s
        ∧ (∀ r ∈ p.roles, componentKey r.component s.stream ∈ s.names)
        ∧ ∃ bundle ∈ s.components, bundle.name = componentKey p.bundleComponent s.stream
          ∧ ∃ m, (extractor bundle.image p.imagePath (Extraction.destination w.temporary)).Leaves
            p m)
    ∧ ∀ v, ((validate raw extractor rs).exec w).1 = .ok v →
      ∃ s, (Snapshot.read raw).2 = .ok s
        ∧ ∃ bundle ∈ s.components, bundle.name = componentKey p.bundleComponent s.stream
          ∧ ∃ m, (extractor bundle.image p.imagePath (Extraction.destination w.temporary)).Leaves
              p m
            ∧ v.outcomes ≠ [] ∧ List.Forall₂ (IsOutcome s m) p.roles v.outcomes
            ∧ (v.passed = true ↔ ∀ o ∈ v.outcomes, o.outcome = .same)
            ∧ v.exitStatus = (if v.passed then 0 else 1) := by
  obtain ⟨hp, hchecked⟩ := (Profile.compile_eq_ok p rs).mp hrs
  rw [← hp]
  constructor
  · simp only [validate_eq_ok hw.writable, extracted_eq_ok hchecked.sound hw.temporary]
    constructor
    · rintro ⟨v, s, r, refs, hsurveys, ⟨m, hleaves, hrefs⟩, hv⟩
      obtain ⟨hkeys, -⟩ := Required.exists_resolve_eq_ok.mp ⟨r, hsurveys.resolved⟩
      exact ⟨s, hsurveys.read, hkeys, r.bundle, hsurveys.isBundle.listed,
        hsurveys.isBundle.named, m, hleaves⟩
    · rintro ⟨s, hread, hkeys, bundle, hlisted, hnamed, m, hleaves⟩
      have hbundle : componentKey rs.profile.bundleComponent s.stream ∈ s.names :=
        hnamed ▸ List.mem_map_of_mem hlisted
      obtain ⟨r, hresolved⟩ := Required.exists_resolve_eq_ok.mpr ⟨hkeys, hbundle⟩
      have hsurveys : Surveys raw rs s r := ⟨hread, hresolved⟩
      -- the bundle's key names one component only
      have hsame : bundle = r.bundle := by
        have hnodup := Snapshot.names_nodup_of_read hread
        refine List.inj_on_of_nodup_map hnodup hlisted hsurveys.isBundle.listed ?_
        rw [hnamed, hsurveys.isBundle.named]
      exact ⟨_, s, r, _, hsurveys, ⟨m, hsame ▸ hleaves, rfl⟩, rfl⟩
  · intro v hv
    obtain ⟨s, r, refs, hsurveys, hx, hv⟩ := (validate_eq_ok hw.writable).mp hv
    obtain ⟨m, hleaves, hrefs⟩ := (extracted_eq_ok hchecked.sound hw.temporary).mp hx
    have hnodup := Snapshot.names_nodup_of_read hsurveys.read
    have houtcomes := forall₂_isOutcome (m := m) hchecked hnodup
      (Required.resolve_eq_ok.mp hsurveys.resolved).1
    rw [← hrefs, ← hv] at houtcomes
    refine ⟨s, hsurveys.read, r.bundle, hsurveys.isBundle.listed, hsurveys.isBundle.named, m,
      hleaves, ?_, houtcomes, v.passed_iff, rfl⟩
    intro hnil
    rw [hnil, List.forall₂_nil_right_iff] at houtcomes
    exact hchecked.roles_ne_nil houtcomes

theorem sample_has_verdict :
    ∃ rs, Sample.profile.compile = .ok rs ∧ Sample.world.Ready
      ∧ ∃ v, ((validate Sample.raw Sample.extractor rs).exec Sample.world).1 = .ok v := by
  have hsome : Sample.profile.compile.toOption.isSome = true := by decide +kernel
  have hread : (Snapshot.read Sample.raw).2
      = .ok ⟨"ystream", .minor, [⟨"o-ystream", "o@aa"⟩, ⟨"b-ystream", "b"⟩]⟩ := by
    decide +kernel
  cases hrs : Sample.profile.compile with
  | error f =>
      rw [hrs] at hsome
      exact nomatch hsome
  | ok rs =>
      refine ⟨rs, rfl, Sample.world_ready,
        (verdict_sound_and_complete hrs Sample.world_ready Sample.raw Sample.extractor).1.mpr ?_⟩
      refine ⟨_, hread, by decide, ⟨"b-ystream", "b"⟩, by decide, by decide, ⟨"", "o@aa"⟩, rfl,
        ?_, ?_⟩
      · exact ⟨⟨by decide, by decide, by decide, by decide, by decide, by decide⟩, rfl⟩
      · exact ⟨⟨by decide, by decide, by decide, by decide, by decide, by decide⟩, rfl⟩

end Validation

end ReleaseGate
