import ReleaseGate.Proofs.Verdicts

/-!
# Roles — each stands on its own

Whether a profile compiles is a question to each of its rules by itself, and to their names as a
set. What a rule adds to a verdict is worked out from the snapshot, the manifests and the rule alone.
So a verdict is a map over the rules: rules in another order give the outcomes in that order, and one
more rule gives one more outcome and changes nothing else.
-/

namespace ReleaseGate

namespace Profile

/-- The profile with other rules. -/
def withRoles (p : Profile) (roles : List Rule) : Profile :=
  { p with roles := roles }

/-- Rules that compile one by one have their compiled patterns beside them. -/
private theorem exists_compiled {regex : Pattern.Compiler} (rules : List Rule)
    (h : ∀ r ∈ rules, ∃ p, r.CompilesTo p regex) : ∃ compiled : List (Rule × Pattern),
      compiled.map Prod.fst = rules ∧ ∀ c ∈ compiled, c.1.CompilesTo c.2 regex := by
  induction rules with
  | nil => exact ⟨[], rfl, List.forall_mem_nil _⟩
  | cons r rules ih =>
      obtain ⟨⟨p, hp⟩, hrest⟩ := List.forall_mem_cons.mp h
      obtain ⟨compiled, halign, heach⟩ := ih hrest
      exact ⟨(r, p) :: compiled, congrArg (r :: ·) halign, List.forall_mem_cons.mpr ⟨hp, heach⟩⟩

/-- A profile compiles when nothing is wrong outside its rules, the roles have distinct names, and
each rule compiles by itself. -/
theorem exists_compile_eq_ok {regex : Pattern.Compiler} (p : Profile) :
    (∃ rs, p.compile regex = .ok rs) ↔ p.defect? = none ∧ (p.roles.map Rule.role).Nodup
      ∧ ∀ r ∈ p.roles, ∃ c, r.CompilesTo c regex := by
  constructor
  · rintro ⟨rs, h⟩
    obtain ⟨hp, h⟩ := (compile_eq_ok p rs).mp h
    rw [← hp]
    refine ⟨h.sound, h.distinct, fun r hr => ?_⟩
    obtain ⟨c, hc, hcr⟩ := h.mem_roles.mp hr
    exact ⟨c.2, hcr ▸ h.each c hc⟩
  · rintro ⟨hsound, hdistinct, heach⟩
    obtain ⟨compiled, halign, heach⟩ := exists_compiled p.roles heach
    exact ⟨⟨p, compiled⟩, (compile_eq_ok p _).mpr ⟨rfl, hsound, halign, hdistinct, heach⟩⟩

/-- The order of its rules makes no difference to whether a profile compiles. -/
theorem exists_compile_of_perm {p : Profile} {roles : List Rule} (h : roles.Perm p.roles) :
    (∃ rs, p.compile = .ok rs) ↔ ∃ rs, (p.withRoles roles).compile = .ok rs := by
  have hempty : (p.withRoles roles).roles ≠ [] ↔ p.roles ≠ [] :=
    not_congr ⟨fun hnil => List.nil_perm.mp (hnil ▸ h), fun hnil => List.perm_nil.mp (hnil ▸ h)⟩
  have hdistinct : ((p.withRoles roles).roles.map Rule.role).Nodup
      ↔ (p.roles.map Rule.role).Nodup := (h.map Rule.role).nodup_iff
  rw [exists_compile_eq_ok, exists_compile_eq_ok, defect?_eq_none, defect?_eq_none, hempty,
    hdistinct]
  exact and_congr_right fun _ => and_congr_right fun _ =>
    ⟨fun heach r hr => heach r (h.mem_iff.mp hr), fun heach r hr => heach r (h.mem_iff.mpr hr)⟩

end Profile

/-! ## One rule -/

namespace Rule

/-- What a rule finds in the manifests. -/
def found (m : ByManifest) (r : Rule) : Option String :=
  match Pattern.compile r.pattern with
  | .ok p => p.capture? (m.get r.manifest)
  | .error _ => none

/-- The outcome of a rule for a snapshot and two manifests. -/
def outcomeIn (s : Snapshot) (m : ByManifest) (r : Rule) : RoleOutcome :=
  ⟨r.role, (s.component? (componentKey r.component s.stream)).bind Component.digest, r.found m⟩

end Rule

namespace Required

/-- The keys of rules that a snapshot does not have. -/
def absentKeys (s : Snapshot) (rules : List Rule) : List String :=
  (rules.map fun r => componentKey r.component s.stream).filter fun key =>
    (s.component? key).isNone

/-- The bundle's key, if a snapshot does not have it. -/
def absentBundle (s : Snapshot) (p : Profile) : List String :=
  [componentKey p.bundleComponent s.stream].filter fun key => (s.component? key).isNone

/-- The missing keys are those of the rules, in their order, and the bundle's at the end. -/
theorem missing_eq (s : Snapshot) (p : Profile) :
    missing s p s.stream = absentKeys s p.roles ++ absentBundle s p := by
  rw [missing, keys, List.filter_append, absentKeys, absentBundle]

/-- The keys are the same whatever the order of the rules. -/
theorem mem_keys_of_perm {p : Profile} {roles : List Rule} (h : roles.Perm p.roles)
    (stream : Stream) {key : String} : key ∈ keys (p.withRoles roles) stream ↔ key ∈ keys p stream :=
  ((h.map _).append_right _).mem_iff

/-- What is given has all keys. -/
theorem forall_mem_names_of_resolve {s : Snapshot} {p : Profile} {stream : Stream}
    {given : Required} (h : resolve s stream p = .ok given) : ∀ key ∈ keys p stream, key ∈ s.names :=
  forall_mem_keys.mpr (exists_resolve_eq_ok.mp ⟨given, h⟩)

end Required

namespace Validation

/-- The manifests that are left of an image, if there is a place for them. -/
def manifestsOf (extractor : Extractor) (p : Profile) (image : String) (t : Temporary) :
    Except Failure ByManifest :=
  match t.entries with
  | none => .error (Extraction.noPlace t)
  | some _ => (extractor image p.imagePath (Extraction.destination t)).yields p t.shownAs

/-- What a verdict is worked out from: the snapshot of a text, and the manifests that are left of
the image of its bundle. -/
structure Basis (raw : String) (extractor : Extractor) (p : Profile) (t : Temporary) (s : Snapshot)
    (m : ByManifest) : Prop where
  read : (Snapshot.read raw).2 = .ok s
  manifests : ∃ bundle, s.component? (componentKey p.bundleComponent s.stream) = some bundle
    ∧ manifestsOf extractor p bundle.image t = .ok m

/-- A text and an extractor give at most one basis. -/
theorem Basis.unique {raw : String} {extractor : Extractor} {p : Profile} {t : Temporary}
    {s s' : Snapshot} {m m' : ByManifest} (h : Basis raw extractor p t s m)
    (h' : Basis raw extractor p t s' m') : s = s' ∧ m = m' := by
  have hs : s = s' := Except.ok.inj (h.read.symm.trans h'.read)
  obtain ⟨bundle, hbundle, hm⟩ := h.manifests
  obtain ⟨bundle', hbundle', hm'⟩ := h'.manifests
  rw [← hs, hbundle] at hbundle'
  rw [← Option.some.inj hbundle', hm] at hm'
  exact ⟨hs, Except.ok.inj hm'⟩

/-- A basis has nothing to do with the roles of a profile. -/
theorem Basis.withRoles {raw : String} {extractor : Extractor} {p : Profile} {t : Temporary}
    {s : Snapshot} {m : ByManifest} (roles : List Rule) :
    Basis raw extractor (p.withRoles roles) t s m ↔ Basis raw extractor p t s m :=
  ⟨fun h => ⟨h.read, h.manifests⟩, fun h => ⟨h.read, h.manifests⟩⟩

/-- The references are those of the manifests that are left. -/
theorem extracted_eq (extractor : Extractor) (rs : Rules) (image : String) (t : Temporary) :
    extracted extractor rs image t
      = (manifestsOf extractor rs.profile image t).map (References.ofManifests rs) := by
  rw [extracted, manifestsOf]
  cases t.entries with
  | none => rfl
  | some d => rfl

section

variable {rs : Rules} {s : Snapshot}

/-- What a rule finds is what the references hold for its role. -/
theorem found_eq (hrs : rs.Checked) (m : ByManifest) {r : Rule} (hr : r ∈ rs.profile.roles) :
    (References.ofManifests rs m).get? r.role = r.found m := by
  obtain ⟨c, hc, hcr⟩ := hrs.mem_roles.mp hr
  rw [← hcr, hrs.get?_ofManifests m hc, Rule.found, (hrs.each c hc).compiled]

/-- The outcomes of a verdict are those of the rules, each by itself. -/
theorem outcomes_verdictOf (hrs : rs.Checked) {given : Required}
    (hgiven : List.Forall₂ (Required.IsGiven s s.stream) rs.profile.roles given.roles)
    (m : ByManifest) : (verdictOf given (References.ofManifests rs m)).outcomes
      = rs.profile.roles.map (Rule.outcomeIn s m) := by
  have hall : ∀ (rules : List Rule) (roles : List (String × Component)),
      (∀ r ∈ rules, r ∈ rs.profile.roles) → List.Forall₂ (Required.IsGiven s s.stream) rules roles →
      roles.map (fun entry => (⟨entry.1, entry.2.digest,
        (References.ofManifests rs m).get? entry.1⟩ : RoleOutcome))
        = rules.map (Rule.outcomeIn s m) := by
    intro rules roles hmem h
    induction h with
    | nil => rfl
    | @cons r entry rules roles hfirst _ ih =>
        obtain ⟨hr, hrest⟩ := List.forall_mem_cons.mp hmem
        rw [List.map_cons, List.map_cons, ih hrest, Rule.outcomeIn, hfirst.2, ← found_eq hrs m hr,
          ← hfirst.1]
        rfl
  exact hall _ _ (fun _ h => h) hgiven

variable {raw : String} {extractor : Extractor} {w : World}

/-- There is a verdict just when there is a basis with the components of all rules, and then it is
worked out rule by rule. -/
theorem validate_eq_ok_iff_basis (hw : w.Writable) (hrs : rs.Checked) {v : Verdict} :
    ((validate raw extractor rs).exec w).1 = .ok v ↔
      ∃ s m, Basis raw extractor rs.profile w.temporary s m
        ∧ (∀ r ∈ rs.profile.roles, componentKey r.component s.stream ∈ s.names)
        ∧ v.outcomes = rs.profile.roles.map (Rule.outcomeIn s m) := by
  rw [validate_eq_ok hw]
  constructor
  · rintro ⟨s, given, refs, hsurveys, hx, hv⟩
    obtain ⟨hroles, hbundle⟩ := Required.resolve_eq_ok.mp hsurveys.resolved
    obtain ⟨hkeys, -⟩ := Required.exists_resolve_eq_ok.mp ⟨given, hsurveys.resolved⟩
    rw [extracted_eq] at hx
    obtain ⟨m, hm, hrefs⟩ := map_eq_ok.mp hx
    refine ⟨s, m, ⟨hsurveys.read, given.bundle, hbundle, hm⟩, hkeys, ?_⟩
    rw [hv, ← hrefs, outcomes_verdictOf hrs hroles]
  · rintro ⟨s, m, hbasis, hkeys, hv⟩
    obtain ⟨bundle, hbundle, hm⟩ := hbasis.manifests
    obtain ⟨given, hgiven⟩ := Required.exists_resolve_eq_ok.mpr
      ⟨hkeys, (s.exists_component?_eq_some _).mp ⟨bundle, hbundle⟩⟩
    obtain ⟨hroles, hbundle'⟩ := Required.resolve_eq_ok.mp hgiven
    have hsame : bundle = given.bundle := Option.some.inj (hbundle.symm.trans hbundle')
    refine ⟨s, given, References.ofManifests rs m, ⟨hbasis.read, hgiven⟩, ?_, ?_⟩
    · rw [extracted_eq, ← hsame, hm]
      rfl
    · rw [← outcomes_verdictOf hrs hroles m] at hv
      exact congrArg Verdict.mk hv

/-- A run ends in a verdict that passes. -/
def Passes (e : Except Failure Verdict × World) : Prop :=
  ∃ v, e.1 = .ok v ∧ v.exitStatus = exitPassed

/-- A run passes just when each rule passes by itself. -/
theorem passes_iff (hw : w.Writable) (hrs : rs.Checked) :
    Passes ((validate raw extractor rs).exec w) ↔
      ∃ s m, Basis raw extractor rs.profile w.temporary s m
        ∧ ∀ r ∈ rs.profile.roles, componentKey r.component s.stream ∈ s.names
          ∧ (r.outcomeIn s m).outcome = .same := by
  simp only [Passes, validate_eq_ok_iff_basis hw hrs, Verdict.exitStatus_eq_passed,
    Verdict.passed_iff, forall_and]
  constructor
  · rintro ⟨v, ⟨s, m, hbasis, hkeys, hv⟩, hall⟩
    rw [hv, List.forall_mem_map] at hall
    exact ⟨s, m, hbasis, hkeys, hall⟩
  · rintro ⟨s, m, hbasis, hkeys, hall⟩
    exact ⟨⟨rs.profile.roles.map (Rule.outcomeIn s m)⟩, ⟨s, m, hbasis, hkeys, rfl⟩,
      List.forall_mem_map.mpr hall⟩

/-- With all components there, a run ends as the extraction does, and its verdict is worked out
rule by rule. -/
theorem ends_of_resolved (extractor : Extractor) (hw : w.Writable) (hrs : rs.Checked) {given : Required}
    (hread : (Snapshot.read raw).2 = .ok s)
    (hgiven : Required.resolve s s.stream rs.profile = .ok given) :
    ∃ shown, Ends ((validate raw extractor rs).exec w) w
      ((manifestsOf extractor rs.profile given.bundle.image w.temporary).map fun m =>
        ⟨rs.profile.roles.map (Rule.outcomeIn s m)⟩)
      shown (callsOf rs given.bundle.image w.temporary) := by
  have hcourse := course_of_surveys extractor w.temporary ⟨hread, hgiven⟩
  have hends := ends_of_course_eq hw hcourse rfl
  obtain ⟨hroles, -⟩ := Required.resolve_eq_ok.mp hgiven
  refine ⟨_, hends.result.trans ?_, hends.written, hends.calls⟩
  show ((extracted extractor rs given.bundle.image w.temporary).map _).map Prod.snd = _
  rw [extracted_eq]
  cases manifestsOf extractor rs.profile given.bundle.image w.temporary with
  | error f => rfl
  | ok m => exact congrArg (Except.ok ∘ Verdict.mk) (outcomes_verdictOf hrs hroles m)

end

/-! ## Two profiles that differ in their roles -/

/-- The status that a process exits with for a result. -/
def statusOf : Except Failure Verdict → Nat
  | .ok v => v.exitStatus
  | .error f => f.exitStatus

/-- What can be seen of two runs, of a profile and of the same profile with its roles in another
order: they end in the same way, with the same calls, and all that they tell of the roles stands in
the order of the roles. -/
inductive SameUpToOrder (raw : String) (p : Profile) (roles : List Rule) (w : World)
    (e e' : Except Failure Verdict × World) : Prop where
  | unread (f : Failure) (shown shown' : List UInt8) :
      (Snapshot.read raw).2 = .error f →
      Ends e w (.error f) shown [] → Ends e' w (.error f) shown' [] →
      SameUpToOrder raw p roles w e e'
  | incomplete (s : Snapshot) (shown shown' : List UInt8) :
      (Snapshot.read raw).2 = .ok s →
      Required.absentKeys s p.roles ++ Required.absentBundle s p ≠ [] →
      Ends e w (.error (.missingComponents
        (Required.absentKeys s p.roles ++ Required.absentBundle s p) s.names)) shown [] →
      Ends e' w (.error (.missingComponents
        (Required.absentKeys s roles ++ Required.absentBundle s p) s.names)) shown' [] →
      SameUpToOrder raw p roles w e e'
  | unextracted (s : Snapshot) (f : Failure) (shown shown' : List UInt8) (calls : List Call) :
      (Snapshot.read raw).2 = .ok s →
      (∀ key ∈ Required.keys p s.stream, key ∈ s.names) →
      Ends e w (.error f) shown calls → Ends e' w (.error f) shown' calls →
      SameUpToOrder raw p roles w e e'
  | judged (s : Snapshot) (m : ByManifest) (shown shown' : List UInt8) (calls : List Call) :
      (Snapshot.read raw).2 = .ok s →
      Ends e w (.ok ⟨p.roles.map (Rule.outcomeIn s m)⟩) shown calls →
      Ends e' w (.ok ⟨roles.map (Rule.outcomeIn s m)⟩) shown' calls →
      SameUpToOrder raw p roles w e e'

/-- The order of the outcomes makes no difference to the status. -/
theorem SameUpToOrder.statusOf_eq {raw : String} {p : Profile} {roles : List Rule} {w : World}
    {e e' : Except Failure Verdict × World} (hperm : roles.Perm p.roles)
    (h : SameUpToOrder raw p roles w e e') : statusOf e.1 = statusOf e'.1 := by
  cases h with
  | unread f shown shown' hread h h' => rw [h.result, h'.result]
  | incomplete s shown shown' hread hsome h h' =>
      rw [h.result, h'.result]
      rfl
  | unextracted s f shown shown' calls hread hkeys h h' => rw [h.result, h'.result]
  | judged s m shown shown' calls hread h h' =>
      rw [h.result, h'.result, statusOf, statusOf, Verdict.exitStatus, Verdict.exitStatus,
        Verdict.passed, Verdict.passed, (hperm.map (Rule.outcomeIn s m)).all_eq]

section

variable {w : World} {rs rs' : Rules} {roles : List Rule} {s : Snapshot}

/-- With keys missing, both runs report them. -/
theorem SameUpToOrder.of_missing {raw : String} (extractor : Extractor) (hw : w.Writable)
    (hprofile : rs'.profile = rs.profile.withRoles roles) (hread : (Snapshot.read raw).2 = .ok s)
    {absent absent' : List String} (h : Required.resolve s s.stream rs.profile = .error absent)
    (h' : Required.resolve s s.stream rs'.profile = .error absent') :
    SameUpToOrder raw rs.profile roles w ((validate raw extractor rs).exec w)
      ((validate raw extractor rs').exec w) := by
  obtain ⟨habsent, hsome⟩ := Required.resolve_eq_error h
  obtain ⟨habsent', -⟩ := Required.resolve_eq_error h'
  rw [Required.missing_eq] at habsent
  rw [Required.missing_eq, hprofile] at habsent'
  rw [habsent] at h hsome
  rw [habsent'] at h'
  exact .incomplete s _ _ hread hsome
    (ends_of_course_eq hw (course_of_missing extractor w.temporary hread h) rfl)
    (ends_of_course_eq hw (course_of_missing extractor w.temporary hread h') rfl)

/-- With all components there, both runs have the manifests of the same image before them. -/
theorem SameUpToOrder.of_given {raw : String} (extractor : Extractor) (hw : w.Writable)
    (hrs : rs.Checked) (hrs' : rs'.Checked) (hprofile : rs'.profile = rs.profile.withRoles roles)
    (hread : (Snapshot.read raw).2 = .ok s) {given given' : Required}
    (h : Required.resolve s s.stream rs.profile = .ok given)
    (h' : Required.resolve s s.stream rs'.profile = .ok given') :
    SameUpToOrder raw rs.profile roles w ((validate raw extractor rs).exec w)
      ((validate raw extractor rs').exec w) := by
  have hall := Required.forall_mem_names_of_resolve h
  obtain ⟨-, hbundle⟩ := Required.resolve_eq_ok.mp h
  obtain ⟨-, hbundle'⟩ := Required.resolve_eq_ok.mp h'
  rw [hprofile] at hbundle'
  have hsame : given'.bundle = given.bundle := Option.some.inj (hbundle'.symm.trans hbundle)
  have hmanifests : manifestsOf extractor (rs.profile.withRoles roles) given.bundle.image w.temporary
      = manifestsOf extractor rs.profile given.bundle.image w.temporary := rfl
  obtain ⟨shown, hends⟩ := ends_of_resolved extractor hw hrs hread h
  obtain ⟨shown', hends'⟩ := ends_of_resolved extractor hw hrs' hread h'
  rw [hsame, callsOf, hprofile, hmanifests] at hends'
  rw [callsOf] at hends
  cases hm : manifestsOf extractor rs.profile given.bundle.image w.temporary with
  | error f =>
      rw [hm] at hends hends'
      exact .unextracted s f shown shown' _ hread hall hends hends'
  | ok m =>
      rw [hm] at hends hends'
      exact .judged s m shown shown' _ hread hends hends'

/-- A profile runs as it does with its roles in another order. -/
theorem sameUpToOrder_of_perm (raw : String) (extractor : Extractor) (hw : w.Writable)
    (hrs : rs.Checked) (hrs' : rs'.Checked) (hprofile : rs'.profile = rs.profile.withRoles roles)
    (hperm : roles.Perm rs.profile.roles) :
    SameUpToOrder raw rs.profile roles w ((validate raw extractor rs).exec w)
      ((validate raw extractor rs').exec w) := by
  cases hread : (Snapshot.read raw).2 with
  | error f =>
      have hcourse : ∀ rules, course raw extractor rules w.temporary = ⟨"", .error f⟩ := by
        intro rules
        rw [course, hread]
      exact .unread f _ _ hread (ends_of_course_eq hw (hcourse rs) rfl)
        (ends_of_course_eq hw (hcourse rs') rfl)
  | ok s =>
      -- the same keys are there for both, so both are given components or neither is
      have hkeys : (∀ key ∈ Required.keys rs'.profile s.stream, key ∈ s.names)
          ↔ ∀ key ∈ Required.keys rs.profile s.stream, key ∈ s.names := by
        rw [hprofile]
        exact forall_congr' fun key => imp_congr_left (Required.mem_keys_of_perm hperm s.stream)
      have hboth : (∃ given, Required.resolve s s.stream rs'.profile = .ok given)
          ↔ ∃ given, Required.resolve s s.stream rs.profile = .ok given := by
        rw [Required.exists_resolve_eq_ok, Required.exists_resolve_eq_ok,
          ← Required.forall_mem_keys, ← Required.forall_mem_keys, hkeys]
      cases hgiven : Required.resolve s s.stream rs.profile with
      | error absent =>
          cases hgiven' : Required.resolve s s.stream rs'.profile with
          | error absent' => exact .of_missing extractor hw hprofile hread hgiven hgiven'
          | ok given' =>
              obtain ⟨given, hok⟩ := hboth.mp ⟨given', hgiven'⟩
              rw [hgiven] at hok
              cases hok
      | ok given =>
          obtain ⟨given', hgiven'⟩ := hboth.mpr ⟨given, hgiven⟩
          exact .of_given extractor hw hrs hrs' hprofile hread hgiven hgiven'

end

/-! ## One more rule -/

section

variable {p : Profile} {r : Rule} {rs rs' : Rules} {w : World}

/-- With one more rule a run passes just when it did and the rule passes by itself. -/
theorem passes_append (raw : String) (extractor : Extractor) (hw : w.Writable) (hrs : rs.Checked)
    (hrs' : rs'.Checked) (hp : rs.profile = p) (hp' : rs'.profile = p.withRoles (p.roles ++ [r])) :
    Passes ((validate raw extractor rs').exec w) ↔
      Passes ((validate raw extractor rs).exec w)
        ∧ ∃ s m, Basis raw extractor p w.temporary s m
          ∧ componentKey r.component s.stream ∈ s.names ∧ (r.outcomeIn s m).outcome = .same := by
  have hroles : rs'.profile.roles = p.roles ++ [r] := congrArg Profile.roles hp'
  rw [passes_iff hw hrs', passes_iff hw hrs, hroles, hp, hp']
  simp only [Basis.withRoles, List.forall_mem_append, List.forall_mem_singleton]
  constructor
  · rintro ⟨s, m, hbasis, hall, hr⟩
    exact ⟨⟨s, m, hbasis, hall⟩, s, m, hbasis, hr⟩
  · rintro ⟨⟨s, m, hbasis, hall⟩, s', m', hbasis', hr⟩
    obtain ⟨hs, hm⟩ := hbasis.unique hbasis'
    rw [← hs, ← hm] at hr
    exact ⟨s, m, hbasis, hall, hr⟩

/-- With one more rule a verdict has one more outcome. -/
theorem outcomes_append {raw : String} {extractor : Extractor} (hw : w.Writable) (hrs : rs.Checked)
    (hrs' : rs'.Checked) (hp : rs.profile = p) (hp' : rs'.profile = p.withRoles (p.roles ++ [r]))
    {v v' : Verdict} (hv : ((validate raw extractor rs).exec w).1 = .ok v)
    (hv' : ((validate raw extractor rs').exec w).1 = .ok v') :
    ∃ s m, Basis raw extractor p w.temporary s m
      ∧ v'.outcomes = v.outcomes ++ [r.outcomeIn s m] := by
  have hroles : rs'.profile.roles = p.roles ++ [r] := congrArg Profile.roles hp'
  obtain ⟨s, m, hbasis, -, hv⟩ := (validate_eq_ok_iff_basis hw hrs).mp hv
  obtain ⟨s', m', hbasis', -, hv'⟩ := (validate_eq_ok_iff_basis hw hrs').mp hv'
  rw [hp] at hbasis hv
  rw [hp', Basis.withRoles] at hbasis'
  obtain ⟨hs, hm⟩ := hbasis.unique hbasis'
  refine ⟨s, m, hbasis, ?_⟩
  rw [hv', hv, hroles, List.map_append, ← hs, ← hm]
  rfl

end

/-- Roles compose. Rules in another order compile and run as they did, with all that is told of them
in the new order. One more rule adds its own outcome, and the run passes just when it did and the
new rule passes by itself. -/
theorem roles_compose (p : Profile) :
    (∀ roles : List Rule, roles.Perm p.roles →
      ((∃ rs, p.compile = .ok rs) ↔ ∃ rs, (p.withRoles roles).compile = .ok rs)
      ∧ ∀ rs rs', p.compile = .ok rs → (p.withRoles roles).compile = .ok rs' →
        ∀ (raw : String) (extractor : Extractor) (w : World), w.Writable →
          SameUpToOrder raw p roles w ((validate raw extractor rs).exec w)
              ((validate raw extractor rs').exec w)
            ∧ statusOf ((validate raw extractor rs).exec w).1
              = statusOf ((validate raw extractor rs').exec w).1)
    ∧ ∀ (r : Rule) (rs rs' : Rules), p.compile = .ok rs →
      (p.withRoles (p.roles ++ [r])).compile = .ok rs' →
        ∀ (raw : String) (extractor : Extractor) (w : World), w.Writable →
          (Passes ((validate raw extractor rs').exec w) ↔
            Passes ((validate raw extractor rs).exec w)
              ∧ ∃ s m, Basis raw extractor p w.temporary s m
                ∧ componentKey r.component s.stream ∈ s.names
                ∧ (r.outcomeIn s m).outcome = .same)
          ∧ ∀ v v', ((validate raw extractor rs).exec w).1 = .ok v →
            ((validate raw extractor rs').exec w).1 = .ok v' →
              ∃ s m, Basis raw extractor p w.temporary s m
                ∧ v'.outcomes = v.outcomes ++ [r.outcomeIn s m] := by
  constructor
  · intro roles hperm
    refine ⟨Profile.exists_compile_of_perm hperm, ?_⟩
    intro rs rs' hrs hrs' raw extractor w hw
    obtain ⟨hp, hchecked⟩ := (Profile.compile_eq_ok p rs).mp hrs
    obtain ⟨hp', hchecked'⟩ := (Profile.compile_eq_ok _ rs').mp hrs'
    rw [← hp] at hp' hperm ⊢
    have hsame := sameUpToOrder_of_perm raw extractor hw hchecked hchecked' hp' hperm
    exact ⟨hsame, hsame.statusOf_eq hperm⟩
  · intro r rs rs' hrs hrs' raw extractor w hw
    obtain ⟨hp, hchecked⟩ := (Profile.compile_eq_ok p rs).mp hrs
    obtain ⟨hp', hchecked'⟩ := (Profile.compile_eq_ok _ rs').mp hrs'
    exact ⟨passes_append raw extractor hw hchecked hchecked' hp hp',
      fun v v' hv hv' => outcomes_append hw hchecked hchecked' hp hp' hv hv'⟩

namespace Sample

/-- A second role for the component of the first. -/
def agent : Rule :=
  ⟨"agent", "o", .configMap, "o@(a+)"⟩

/-- The profile with both roles, the new one first. -/
def agentFirst : List Rule :=
  agent :: profile.roles

theorem agentFirst_perm : agentFirst.Perm (profile.withRoles (profile.roles ++ [agent])).roles :=
  (List.perm_append_singleton agent profile.roles).symm

end Sample

theorem sample_roles_compose :
    ∃ rs both turned, Sample.profile.compile = .ok rs
      ∧ (Sample.profile.withRoles (Sample.profile.roles ++ [Sample.agent])).compile = .ok both
      ∧ (Sample.profile.withRoles Sample.agentFirst).compile = .ok turned
      ∧ statusOf ((validate Sample.raw Sample.extractor both).exec Sample.world).1
        = statusOf ((validate Sample.raw Sample.extractor turned).exec Sample.world).1
      ∧ (Passes ((validate Sample.raw Sample.extractor both).exec Sample.world) ↔
        Passes ((validate Sample.raw Sample.extractor rs).exec Sample.world)
          ∧ ∃ s m, Basis Sample.raw Sample.extractor Sample.profile Sample.world.temporary s m
            ∧ componentKey Sample.agent.component s.stream ∈ s.names
            ∧ (Sample.agent.outcomeIn s m).outcome = .same) := by
  obtain ⟨rs, hrs⟩ : ∃ rs, Sample.profile.compile = .ok rs :=
    exists_eq_ok_of_isSome (by decide +kernel)
  obtain ⟨both, hboth⟩ : ∃ rs,
      (Sample.profile.withRoles (Sample.profile.roles ++ [Sample.agent])).compile = .ok rs :=
    exists_eq_ok_of_isSome (by decide +kernel)
  obtain ⟨hcompile, hruns⟩ := (roles_compose _).1 Sample.agentFirst Sample.agentFirst_perm
  obtain ⟨turned, hturned⟩ := hcompile.mp ⟨both, hboth⟩
  obtain ⟨-, hstatus⟩ := hruns both turned hboth hturned Sample.raw Sample.extractor Sample.world
    Sample.world_ready.writable
  obtain ⟨hpasses, -⟩ := (roles_compose Sample.profile).2 Sample.agent rs both hrs hboth Sample.raw
    Sample.extractor Sample.world Sample.world_ready.writable
  exact ⟨rs, both, turned, hrs, hboth, hturned, hstatus, hpasses⟩

end Validation

end ReleaseGate
