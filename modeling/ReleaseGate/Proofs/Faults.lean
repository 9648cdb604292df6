import ReleaseGate.Proofs.Roles

/-!
# Faults of profiles — which profiles compile, and what is told of the others

A profile is asked for one thing after the other: first for its own fields, then rule by rule, and
of a rule for its name, its component and its pattern. Here all that is asked for is written down as
one list of checks, in the order in which they are made. A profile compiles when every check goes
well, and otherwise the first that does not tells the failure. So a pattern that cannot be compiled
is told before a name that is repeated further down.

Which patterns can be compiled, and what is told of the others, is for the compiler of patterns to
say. All of this holds for any such compiler.
-/

namespace ReleaseGate

/-! ## Checks in a row -/

/-- A check. It tells a failure, or none when it goes well. -/
structure Check where
  tells : Failure → Prop

namespace Check

/-- The check goes well. -/
def Passes (c : Check) : Prop :=
  ∀ f, ¬ c.tells f

/-- The check that a demand is met; a defect is told when it is not. -/
def requires (demand : Prop) (d : Profile.Defect) : Check :=
  ⟨fun f => ¬ demand ∧ f = d.failure⟩

/-- The first check that does not go well tells a failure. -/
def FirstFault (checks : List Check) (f : Failure) : Prop :=
  ∃ before check after,
    checks = before ++ check :: after ∧ (∀ c ∈ before, c.Passes) ∧ check.tells f

variable {c : Check} {cs ds : List Check} {f : Failure} {demand : Prop} {d : Profile.Defect}

theorem not_firstFault_nil : ¬ FirstFault [] f := by
  rintro ⟨before, check, after, h, -⟩
  exact List.append_ne_nil_of_right_ne_nil _ (List.cons_ne_nil _ _) h.symm

/-- A check tells a failure itself, or it goes well and a later one does. -/
theorem firstFault_cons : FirstFault (c :: cs) f ↔ c.tells f ∨ c.Passes ∧ FirstFault cs f := by
  constructor
  · rintro ⟨before, check, after, h, hpass, hf⟩
    rcases List.cons_eq_append_iff.mp h with ⟨rfl, hhead⟩ | ⟨before, rfl, rfl⟩
    · rw [(List.cons.inj hhead).1] at hf
      exact .inl hf
    · rw [List.forall_mem_cons] at hpass
      exact .inr ⟨hpass.1, before, check, after, rfl, hpass.2, hf⟩
  · rintro (hf | ⟨hpass, before, check, after, rfl, hbefore, hf⟩)
    · exact ⟨[], c, cs, rfl, List.forall_mem_nil _, hf⟩
    · exact ⟨c :: before, check, after, rfl, List.forall_mem_cons.mpr ⟨hpass, hbefore⟩, hf⟩

theorem firstFault_append :
    FirstFault (cs ++ ds) f ↔ FirstFault cs f ∨ (∀ c ∈ cs, c.Passes) ∧ FirstFault ds f := by
  induction cs with
  | nil => simp [not_firstFault_nil]
  | cons c cs ih =>
      rw [List.cons_append, firstFault_cons, firstFault_cons, ih, List.forall_mem_cons, and_assoc,
        and_or_left, or_assoc]

/-- All checks go well just when there is no first fault. -/
theorem forall_passes_iff : (∀ c ∈ cs, c.Passes) ↔ ∀ f, ¬ FirstFault cs f := by
  induction cs with
  | nil => exact ⟨fun _ _ => not_firstFault_nil, fun _ => List.forall_mem_nil _⟩
  | cons c cs ih =>
      simp only [List.forall_mem_cons, firstFault_cons, not_or, not_and, forall_and, ih]
      exact and_congr_right fun hpass => ⟨fun h f _ => h f, fun h f => h f hpass⟩

theorem firstFault_of_met (h : demand) : FirstFault (requires demand d :: cs) f ↔ FirstFault cs f := by
  rw [firstFault_cons]
  constructor
  · rintro (⟨hnot, -⟩ | ⟨-, hcs⟩)
    · exact absurd h hnot
    · exact hcs
  · intro hcs
    exact .inr ⟨fun f hf => hf.1 h, hcs⟩

theorem firstFault_of_unmet (h : ¬ demand) :
    FirstFault (requires demand d :: cs) f ↔ f = d.failure := by
  rw [firstFault_cons]
  constructor
  · rintro (⟨-, hf⟩ | ⟨hpass, -⟩)
    · exact hf
    · exact absurd ⟨h, rfl⟩ (hpass d.failure)
  · intro hf
    exact .inl ⟨h, hf⟩

/-- A branch on a demand tells what the check of the demand tells, in front of what the other branch
tells. -/
theorem firstFault_ite {α : Type} (told : α → Prop) {here rest : α} {cond : Prop}
    [Decidable cond] (hcond : cond ↔ ¬ demand) (hhere : told here ↔ f = d.failure)
    (hrest : told rest ↔ FirstFault cs f) :
    told (if cond then here else rest) ↔ FirstFault (requires demand d :: cs) f := by
  by_cases h : cond
  · rw [if_pos h, hhere, firstFault_of_unmet (hcond.mp h)]
  · rw [if_neg h, hrest, firstFault_of_met (not_not.mp (mt hcond.mpr h))]

end Check

namespace Profile

open Check

/-! ## The checks of a profile -/

/-- The name of a file in a directory: it is not empty and has no separators. -/
def IsPlainName (name : String) : Prop :=
  name ≠ "" ∧ '/' ∉ name.toList ∧ '\\' ∉ name.toList

/-- What the fields of a profile are checked for. -/
def checksOfFields (p : Profile) : List Check :=
  [ .requires (Text.blank p.imagePath = false) .blankImagePath,
    .requires (Text.blank p.bundleComponent = false) .blankBundleComponent,
    .requires (IsPlainName p.fileNames.clusterServiceVersion)
      (.badFileName p.fileNames.clusterServiceVersion),
    .requires (IsPlainName p.fileNames.configMap) (.badFileName p.fileNames.configMap),
    .requires (p.roles ≠ []) .noRoles ]

/-- What a rule is checked for that stands behind rules for the roles `before`. -/
def checksOfRule (regex : Pattern.Compiler) (before : List String) (r : Rule) : List Check :=
  [ .requires (r.role ∉ before) (.repeatedRole r.role),
    .requires (Text.blank r.role = false) .blankRole,
    .requires (Text.blank r.component = false) (.blankComponent r.role),
    ⟨fun f => ∃ reason, regex r.pattern = .error reason ∧ f = .invalidPattern r.role reason⟩,
    .requires (∀ p, regex r.pattern = .ok p → p.groups = 1) (.wrongGroups r.role) ]

/-- What rules are checked for that stand behind rules for the roles `before`. -/
def checksOfRules (regex : Pattern.Compiler) (before : List String) : List Rule → List Check
  | [] => []
  | r :: rest => checksOfRule regex before r ++ checksOfRules regex (r.role :: before) rest

/-- What a profile is checked for. -/
def checks (p : Profile) (regex : Pattern.Compiler := Pattern.compile) : List Check :=
  p.checksOfFields ++ checksOfRules regex [] p.roles

/-- A profile in which nothing is wrong. -/
structure Valid (p : Profile) (regex : Pattern.Compiler := Pattern.compile) : Prop where
  imagePath : Text.blank p.imagePath = false
  bundleComponent : Text.blank p.bundleComponent = false
  fileNames : ∀ m, IsPlainName (p.fileNames.get m)
  someRole : p.roles ≠ []
  distinct : (p.roles.map Rule.role).Nodup
  /-- Neither the role nor the component is blank, and the pattern compiles and has one group. -/
  rules : ∀ r ∈ p.roles, ∃ pattern, r.CompilesTo pattern regex

end Profile

/-- What the rules of a valid profile look like. -/
structure Rules.IsFrom (rs : Rules) (p : Profile)
    (regex : Pattern.Compiler := Pattern.compile) : Prop where
  profile_eq : rs.profile = p
  /-- Every rule is there once, in the order of the profile. -/
  aligned : rs.compiled.map Prod.fst = p.roles
  /-- Rules and patterns side by side: none is dropped. -/
  zipped : p.roles.zip (rs.compiled.map Prod.snd) = rs.compiled
  own : ∀ c ∈ rs.compiled, regex c.1.pattern = .ok c.2
  /-- A role has a rule and that rule's pattern, or neither. -/
  lookup : ∀ role, rs.rule? role = none ∧ rs.pattern? role = none
    ∨ ∃ c ∈ rs.compiled, c.1.role = role ∧ rs.rule? role = some c.1 ∧ rs.pattern? role = some c.2

namespace Profile

open Check

variable {regex : Pattern.Compiler}

/-! ## What is told -/

theorem blank_iff (text : String) : Text.blank text = true ↔ ¬ Text.blank text = false := by
  rw [Bool.not_eq_false]

/-- The first defect among the fields is that of the first check that does not go well. -/
theorem told_defect? {f : Failure} (told : Option Defect → Prop)
    (hsome : ∀ d, told (some d) ↔ f = d.failure) (hnone : ¬ told none) (p : Profile) :
    told p.defect? ↔ FirstFault p.checksOfFields f := by
  have hname : ∀ name, (!isFileName name) = true ↔ ¬ IsPlainName name := by
    intro name
    rw [IsPlainName, ← isFileName_iff, Bool.not_eq_true', Bool.not_eq_true]
  have hroles : p.roles.isEmpty = true ↔ ¬ p.roles ≠ [] := by
    rw [List.isEmpty_iff, not_not]
  rw [defect?, checksOfFields]
  refine firstFault_ite told (blank_iff _) (hsome _) ?_
  refine firstFault_ite told (blank_iff _) (hsome _) ?_
  refine firstFault_ite told (hname _) (hsome _) ?_
  refine firstFault_ite told (hname _) (hsome _) ?_
  refine firstFault_ite told hroles (hsome _) ?_
  exact iff_of_false hnone not_firstFault_nil

/-- A rule's failure is that of the first of its checks that does not go well. -/
theorem told_compileRule {f : Failure} (told : Except Failure Pattern → Prop)
    (herror : ∀ f', told (.error f') ↔ f = f') (hok : ∀ c, ¬ told (.ok c)) (before : List String)
    (r : Rule) :
    told (compileRule regex before r) ↔ FirstFault (checksOfRule regex before r) f := by
  rw [compileRule, checksOfRule]
  refine firstFault_ite told not_not.symm (herror _) ?_
  refine firstFault_ite told (blank_iff _) (herror _) ?_
  refine firstFault_ite told (blank_iff _) (herror _) ?_
  rw [firstFault_cons]
  cases regex r.pattern with
  | error reason =>
      dsimp only
      rw [herror]
      constructor
      · intro h
        exact .inl ⟨reason, rfl, h⟩
      · rintro (⟨reason', hreason, h⟩ | ⟨hpass, -⟩)
        · rw [h, Except.error.inj hreason]
        · exact absurd ⟨reason, rfl, rfl⟩ (hpass (.invalidPattern r.role reason))
  | ok c =>
      have hgroups : (c.groups == 1) = true
          ↔ ∀ c', (.ok c : Except String Pattern) = .ok c' → c'.groups = 1 := by
        rw [beq_iff_eq]
        exact ⟨fun h c' hc => Except.ok.inj hc ▸ h, fun h => h c rfl⟩
      have hrest : told (if (c.groups == 1) = true then .ok c
            else .error (Defect.wrongGroups r.role).failure)
          ↔ FirstFault [.requires (∀ c', (.ok c : Except String Pattern) = .ok c' → c'.groups = 1)
            (.wrongGroups r.role)] f := by
        rw [← ite_not]
        exact firstFault_ite told (not_congr hgroups) (herror _)
          (iff_of_false (hok c) not_firstFault_nil)
      rw [hrest]
      constructor
      · intro h
        refine .inr ⟨?_, h⟩
        rintro f' ⟨reason, hreason, -⟩
        cases hreason
      · rintro (⟨reason, hreason, -⟩ | ⟨-, h⟩)
        · cases hreason
        · exact h

theorem defect?_eq_some_iff (p : Profile) (f : Failure) :
    (∃ d, p.defect? = some d ∧ f = d.failure) ↔ FirstFault p.checksOfFields f := by
  refine told_defect? (fun o => ∃ d, o = some d ∧ f = d.failure) (fun d => ?_) ?_ p
  · simp
  · rintro ⟨d, h, -⟩
    cases h

theorem compileRule_eq_error (before : List String) (r : Rule) (f : Failure) :
    compileRule regex before r = .error f ↔ FirstFault (checksOfRule regex before r) f := by
  refine told_compileRule (fun x => x = .error f) (fun f' => ?_) (fun c h => ?_) before r
  · exact ⟨fun h => (Except.error.inj h).symm, fun h => congrArg Except.error h.symm⟩
  · cases h

/-- A rule compiles just when all its checks go well. -/
theorem exists_compileRule_eq_ok (before : List String) (r : Rule) :
    (∃ c, compileRule regex before r = .ok c)
      ↔ ∀ check ∈ checksOfRule regex before r, check.Passes := by
  simp only [forall_passes_iff, ← compileRule_eq_error]
  cases compileRule regex before r with
  | error f =>
      constructor
      · rintro ⟨c, h⟩
        cases h
      · intro h
        exact absurd rfl (h f)
  | ok c =>
      constructor
      · rintro - f h
        cases h
      · intro _
        exact ⟨c, rfl⟩

/-- The failure of rules is that of the first check that does not go well, rule by rule. -/
theorem compileRules_eq_error (rules : List Rule) (f : Failure) :
    ∀ before, compileRules regex before rules = .error f
      ↔ FirstFault (checksOfRules regex before rules) f := by
  induction rules with
  | nil =>
      intro before
      refine iff_of_false (fun h => ?_) not_firstFault_nil
      cases h
  | cons r rules ih =>
      intro before
      rw [compileRules, checksOfRules, firstFault_append, bind_eq_error, compileRule_eq_error,
        ← exists_compileRule_eq_ok, ← ih]
      -- behind a rule that compiles, what is left fails just as the rules behind it
      have hrest : ∀ c, (compileRules regex (r.role :: before) rules >>= fun compiled =>
          pure ((r, c) :: compiled)) = .error f
            ↔ compileRules regex (r.role :: before) rules = .error f := by
        intro c
        rw [bind_eq_error]
        constructor
        · rintro (h | ⟨compiled, -, h⟩)
          · exact h
          · cases h
        · exact .inl
      simp only [hrest, exists_and_right]

theorem compile_eq_error (p : Profile) (f : Failure) :
    p.compile regex = .error f ↔ FirstFault (p.checks regex) f := by
  rw [checks, firstFault_append, forall_passes_iff, ← compileRules_eq_error]
  simp only [← defect?_eq_some_iff]
  rw [compile]
  cases p.defect? with
  | some d =>
      constructor
      · intro h
        exact .inl ⟨d, rfl, (Except.error.inj h).symm⟩
      · rintro (⟨d', hd, h⟩ | ⟨hnone, -⟩)
        · rw [h, Option.some.inj hd]
        · exact absurd ⟨d, rfl, rfl⟩ (hnone d.failure)
  | none =>
      have hnone : ∀ f' : Failure, ¬ ∃ d, (none : Option Defect) = some d ∧ f' = d.failure := by
        rintro f' ⟨d, h, -⟩
        cases h
      dsimp only
      rw [iff_of_false (hnone f) not_false, false_or, and_iff_right hnone]
      cases compileRules regex [] p.roles with
      | error f' =>
          exact ⟨fun h => congrArg Except.error (Except.error.inj h),
            fun h => congrArg Except.error (Except.error.inj h)⟩
      | ok compiled =>
          refine iff_of_false (fun h => ?_) (fun h => ?_)
          · cases h
          · cases h

/-! ## Valid profiles -/

/-- A profile compiles just when it is valid. -/
theorem exists_compile_iff_valid (p : Profile) :
    (∃ rs, p.compile regex = .ok rs) ↔ p.Valid regex := by
  rw [exists_compile_eq_ok, defect?_eq_none, isFileName_iff, isFileName_iff]
  constructor
  · rintro ⟨⟨himage, hbundle, hcsv, hconfig, hroles⟩, hdistinct, hrules⟩
    refine ⟨himage, hbundle, fun m => ?_, hroles, hdistinct, hrules⟩
    cases m with
    | clusterServiceVersion => exact hcsv
    | configMap => exact hconfig
  · intro h
    exact ⟨⟨h.imagePath, h.bundleComponent, h.fileNames .clusterServiceVersion,
      h.fileNames .configMap, h.someRole⟩, h.distinct, h.rules⟩

theorem compile_eq_ok_iff_valid (p : Profile) (rs : Rules) :
    p.compile regex = .ok rs ↔ p.Valid regex ∧ rs.IsFrom p regex := by
  constructor
  · intro h
    obtain ⟨rfl, hchecked⟩ := (compile_eq_ok p rs).mp h
    refine ⟨(exists_compile_iff_valid _).mp ⟨rs, h⟩, rfl, hchecked.aligned, ?_,
      fun c hc => (hchecked.each c hc).compiled, hchecked.lookup⟩
    rw [← hchecked.aligned, ← List.unzip_fst, ← List.unzip_snd]
    exact List.zip_unzip rs.compiled
  · rintro ⟨hvalid, hfrom⟩
    obtain ⟨rs', hrs'⟩ := (exists_compile_iff_valid p).mpr hvalid
    obtain ⟨hp, hchecked⟩ := (compile_eq_ok p rs').mp hrs'
    refine (compile_eq_ok p rs).mpr ⟨hfrom.profile_eq, ?_, ?_, ?_, fun c hc => ?_⟩
    · rw [hfrom.profile_eq, ← hp]
      exact hchecked.sound
    · rw [hfrom.profile_eq]
      exact hfrom.aligned
    · rw [hfrom.profile_eq]
      exact hvalid.distinct
    · -- the pattern beside a rule is the one that the rule compiles to
      have hc' : c.1 ∈ p.roles := hfrom.aligned ▸ List.mem_map_of_mem hc
      obtain ⟨pattern, hpattern⟩ := hvalid.rules c.1 hc'
      have hsame : pattern = c.2 :=
        Except.ok.inj (hpattern.compiled.symm.trans (hfrom.own c hc))
      rw [← hsame]
      exact hpattern

/-- Whatever compiles its patterns, a profile compiles just when it is valid, and then to its own
rules, each beside its own pattern. Otherwise the first of its checks that does not go well tells
the failure. -/
theorem compiles_or_first_fault (regex : Pattern.Compiler) (p : Profile) :
    ((∃ rs, p.compile regex = .ok rs) ↔ p.Valid regex)
      ∧ (∀ rs, p.compile regex = .ok rs ↔ p.Valid regex ∧ rs.IsFrom p regex)
      ∧ ∀ f, p.compile regex = .error f ↔ FirstFault (p.checks regex) f :=
  ⟨exists_compile_iff_valid p, compile_eq_ok_iff_valid p, compile_eq_error p⟩

end Profile

end ReleaseGate
