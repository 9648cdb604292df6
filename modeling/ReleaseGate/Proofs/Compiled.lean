import ReleaseGate.Proofs.Items
import ReleaseGate.References

/-!
# Compiled profiles — what holds of rules that exist

Rules come from a profile without defect. Their compiled patterns stand beside the rules of the
profile in the same order, and each is the pattern of the rule it stands beside. The names of the
roles are distinct, so what is looked up for a role is what its own rule has found.
-/

namespace ReleaseGate

/-- A rule without fault, and its compiled pattern. -/
structure Rule.CompilesTo (r : Rule) (p : Pattern)
    (regex : Pattern.Compiler := Pattern.compile) : Prop where
  roleNamed : Text.blank r.role = false
  componentNamed : Text.blank r.component = false
  compiled : regex r.pattern = .ok p
  oneGroup : p.groups = 1

/-- What is known of rules that came out of the check of a profile. -/
structure Rules.Checked (rs : Rules) (regex : Pattern.Compiler := Pattern.compile) : Prop where
  sound : rs.profile.defect? = none
  /-- Each rule of the profile has its entry, in the order of the profile. -/
  aligned : rs.compiled.map Prod.fst = rs.profile.roles
  distinct : (rs.profile.roles.map Rule.role).Nodup
  each : ∀ c ∈ rs.compiled, c.1.CompilesTo c.2 regex

namespace Profile

variable {regex : Pattern.Compiler}

/-! ## The check -/

theorem compileRule_eq_ok (before : List String) (r : Rule) (p : Pattern) :
    compileRule regex before r = .ok p ↔ r.role ∉ before ∧ r.CompilesTo p regex := by
  rw [compileRule]
  -- check by check: where one fails, the rule is not as it has to be
  by_cases hrole : r.role ∈ before
  · rw [if_pos hrole]
    exact ⟨fun h => (nomatch h), fun h => absurd hrole h.1⟩
  rw [if_neg hrole]
  by_cases hname : Text.blank r.role = true
  · rw [if_pos hname]
    refine ⟨fun h => (nomatch h), fun h => ?_⟩
    rw [h.2.roleNamed] at hname
    exact nomatch hname
  rw [if_neg hname]
  by_cases hcomponent : Text.blank r.component = true
  · rw [if_pos hcomponent]
    refine ⟨fun h => (nomatch h), fun h => ?_⟩
    rw [h.2.componentNamed] at hcomponent
    exact nomatch hcomponent
  rw [if_neg hcomponent]
  cases hpattern : regex r.pattern with
  | error reason =>
      refine ⟨fun h => (nomatch h), fun h => ?_⟩
      rw [h.2.compiled] at hpattern
      exact nomatch hpattern
  | ok found =>
      dsimp only
      by_cases hgroups : (found.groups == 1) = true
      · rw [if_pos hgroups]
        constructor
        · intro h
          rw [← Except.ok.inj h]
          exact ⟨hrole, Bool.eq_false_iff.mpr hname, Bool.eq_false_iff.mpr hcomponent, hpattern,
            beq_iff_eq.mp hgroups⟩
        · intro h
          exact congrArg Except.ok (Except.ok.inj (hpattern.symm.trans h.2.compiled))
      · rw [if_neg hgroups]
        refine ⟨fun h => (nomatch h), fun h => absurd (beq_iff_eq.mpr ?_) hgroups⟩
        rw [h.2.compiled] at hpattern
        rw [← Except.ok.inj hpattern]
        exact h.2.oneGroup

/-- Behind rules for the roles `before`, rules compile just when each compiles by itself and their
roles are distinct and new. -/
theorem compileRules_eq_ok (rules : List Rule) :
    ∀ (before : List String) (compiled : List (Rule × Pattern)),
      compileRules regex before rules = .ok compiled ↔ compiled.map Prod.fst = rules
        ∧ Fresh before (rules.map Rule.role) ∧ ∀ c ∈ compiled, c.1.CompilesTo c.2 regex := by
  induction rules with
  | nil =>
      intro before compiled
      constructor
      · intro h
        rw [← Except.ok.inj h]
        exact ⟨rfl, fresh_nil before, List.forall_mem_nil _⟩
      · rintro ⟨h, -⟩
        rw [List.map_eq_nil_iff.mp h]
        rfl
  | cons r rules ih =>
      intro before compiled
      rw [compileRules, bind_eq_ok, List.map_cons, fresh_cons]
      constructor
      · rintro ⟨p, hp, h⟩
        obtain ⟨rest, hrest, h⟩ := bind_eq_ok.mp h
        obtain ⟨hnew, hr⟩ := (compileRule_eq_ok before r p).mp hp
        obtain ⟨halign, hfresh, heach⟩ := (ih _ rest).mp hrest
        rw [← Except.ok.inj h]
        exact ⟨congrArg (r :: ·) halign, ⟨hnew, hfresh⟩, List.forall_mem_cons.mpr ⟨hr, heach⟩⟩
      · rintro ⟨halign, ⟨hnew, hfresh⟩, heach⟩
        match compiled with
        | [] => exact nomatch halign
        | (r', p) :: rest =>
            obtain ⟨hr, htail⟩ := List.cons.inj halign
            have hr : r' = r := hr
            rw [List.forall_mem_cons, hr] at heach
            rw [hr]
            have hrest := (ih (r.role :: before) rest).mpr ⟨htail, hfresh, heach.2⟩
            refine ⟨p, (compileRule_eq_ok before r p).mpr ⟨hnew, heach.1⟩, ?_⟩
            exact bind_eq_ok.mpr ⟨rest, hrest, rfl⟩

/-- A profile compiles to just the checked rules that are its own. -/
theorem compile_eq_ok (p : Profile) (rs : Rules) :
    p.compile regex = .ok rs ↔ rs.profile = p ∧ rs.Checked regex := by
  rw [compile]
  cases hdefect : p.defect? with
  | some d =>
      refine ⟨fun h => (nomatch h), fun ⟨hp, h⟩ => ?_⟩
      rw [← hp, h.sound] at hdefect
      exact nomatch hdefect
  | none =>
      dsimp only
      constructor
      · intro h
        cases hrules : compileRules regex [] p.roles with
        | error f =>
            rw [hrules] at h
            exact nomatch h
        | ok compiled =>
            rw [hrules] at h
            obtain ⟨halign, hfresh, heach⟩ := (compileRules_eq_ok _ _ _).mp hrules
            rw [← Except.ok.inj h]
            exact ⟨rfl, hdefect, halign, hfresh.1, heach⟩
      · rintro ⟨hp, h⟩
        rw [← hp, (compileRules_eq_ok _ [] rs.compiled).mpr
          ⟨h.aligned, (fresh_of_nothing_seen _).mpr h.distinct, h.each⟩]
        rfl

/-! ## What lies outside the rules -/

/-- A file name is not empty and has no separators. -/
theorem isFileName_iff (name : String) :
    isFileName name = true ↔ name ≠ "" ∧ '/' ∉ name.toList ∧ '\\' ∉ name.toList := by
  rw [isFileName, Bool.and_eq_true, Bool.not_eq_true', ← Bool.not_eq_true, String.isEmpty_iff,
    List.all_eq_true]
  refine and_congr_right fun _ => ⟨fun h => ⟨fun hmem => ?_, fun hmem => ?_⟩, fun h c hc => ?_⟩
  · exact nomatch h '/' hmem
  · exact nomatch h '\\' hmem
  · rw [Bool.and_eq_true, bne_iff_ne, bne_iff_ne]
    exact ⟨fun hslash => h.1 (hslash ▸ hc), fun hback => h.2 (hback ▸ hc)⟩

private theorem ite_some_eq_none {α : Type} (c : Prop) [Decidable c] (d : α) (rest : Option α) :
    (if c then some d else rest) = none ↔ ¬ c ∧ rest = none := by
  by_cases hc : c
  · rw [if_pos hc]
    exact ⟨fun h => (nomatch h), fun h => absurd hc h.1⟩
  · rw [if_neg hc]
    exact ⟨fun h => ⟨hc, h⟩, And.right⟩

/-- A profile without defect outside its rules. -/
theorem defect?_eq_none (p : Profile) : p.defect? = none ↔
    Text.blank p.imagePath = false ∧ Text.blank p.bundleComponent = false
      ∧ isFileName p.fileNames.clusterServiceVersion = true
      ∧ isFileName p.fileNames.configMap = true ∧ p.roles ≠ [] := by
  rw [defect?]
  simp only [ite_some_eq_none, Bool.not_eq_true, Bool.not_eq_eq_eq_not, Bool.not_true,
    Bool.not_eq_false, List.isEmpty_eq_false_iff, and_true]

end Profile

/-! ## Looking up by role -/

namespace Rules.Checked

variable {rs : Rules} {regex : Pattern.Compiler}

theorem roles_ne_nil (h : rs.Checked regex) : rs.profile.roles ≠ [] :=
  ((Profile.defect?_eq_none _).mp h.sound).2.2.2.2

/-- The compiled patterns stand under the roles of the profile. -/
theorem map_role (h : rs.Checked regex) :
    rs.compiled.map (fun c => c.1.role) = rs.profile.roles.map Rule.role := by
  rw [← h.aligned, List.map_map]
  rfl

/-- A rule of the profile is one that was compiled. -/
theorem mem_roles (h : rs.Checked regex) {r : Rule} :
    r ∈ rs.profile.roles ↔ ∃ c ∈ rs.compiled, c.1 = r := by
  rw [← h.aligned, List.mem_map]

/-- There is one reference for each role, in the order of the profile. -/
theorem map_fst_ofManifests (h : rs.Checked regex) (m : ByManifest) :
    (References.ofManifests rs m).digests.map Prod.fst = rs.profile.roles.map Rule.role := by
  rw [← h.map_role, References.ofManifests, List.map_map]
  rfl

/-- The reference of a role is what its own rule finds. -/
theorem get?_ofManifests (h : rs.Checked regex) (m : ByManifest) {c : Rule × Pattern}
    (hc : c ∈ rs.compiled) :
    (References.ofManifests rs m).get? c.1.role = c.2.capture? (m.get c.1.manifest) := by
  have hkeys : ((References.ofManifests rs m).digests.map Prod.fst).Nodup := by
    rw [h.map_fst_ofManifests]
    exact h.distinct
  have hmem : (c.1.role, References.find m c) ∈ (References.ofManifests rs m).digests :=
    List.mem_map.mpr ⟨c, hc, rfl⟩
  rw [References.get?, lookup_of_mem hkeys hmem]
  rfl

/-- The pattern of a role is that of its own rule. -/
theorem pattern?_of_mem (h : rs.Checked regex) {c : Rule × Pattern} (hc : c ∈ rs.compiled) :
    rs.pattern? c.1.role = some c.2 := by
  have hnodup : (rs.compiled.map fun c => c.1.role).Nodup := h.map_role ▸ h.distinct
  rw [Rules.pattern?, (find?_eq_some_of_nodup hnodup c.1.role c).mpr ⟨hc, rfl⟩]
  rfl

/-- A rule is looked up among the compiled ones. -/
theorem rule?_eq (h : rs.Checked regex) (role : String) :
    rs.rule? role = (rs.compiled.find? fun c => c.1.role == role).map Prod.fst := by
  rw [Rules.rule?, ← h.aligned, List.find?_map]
  rfl

/-- A role has a rule and that rule's pattern, or neither. -/
theorem lookup (h : rs.Checked regex) (role : String) :
    rs.rule? role = none ∧ rs.pattern? role = none
    ∨ ∃ c ∈ rs.compiled, c.1.role = role ∧ rs.rule? role = some c.1
      ∧ rs.pattern? role = some c.2 := by
  rw [h.rule?_eq, Rules.pattern?]
  cases hfound : rs.compiled.find? fun c => c.1.role == role with
  | none => exact .inl ⟨rfl, rfl⟩
  | some c =>
      have hrole : c.1.role = role := by simpa using List.find?_some hfound
      exact .inr ⟨c, List.mem_of_find?_eq_some hfound, hrole, rfl, rfl⟩

end Rules.Checked

end ReleaseGate
