import ReleaseGate.Proofs.Resolution

/-!
# Repairs — what is missing, and what is still missing when something is added

A profile is given its components just when the snapshot has them all, and otherwise it is told
every key that is absent, with the keys of the roles in the order of the profile and the bundle's at
the end. Which keys are absent depends on the names in the snapshot alone. So when components are
added, the keys that are told next are those told before without the names of what was added, and
nothing is told when these names cover them all.
-/

namespace ReleaseGate

namespace Required

/-- A role has the component that the key of its rule names. -/
structure Names (s : Snapshot) (stream : Stream) (r : Rule) (given : String × Component) :
    Prop where
  role_eq : given.1 = r.role
  listed : given.2 ∈ s.components
  named : given.2.name = componentKey r.component stream

/-- What a snapshot gives a profile: the component of each role, in the order of the profile, and
the bundle's. -/
structure Gives (s : Snapshot) (stream : Stream) (p : Profile) (given : Required) : Prop where
  roles : List.Forall₂ (Names s stream) p.roles given.roles
  bundleListed : given.bundle ∈ s.components
  bundleNamed : given.bundle.name = componentKey p.bundleComponent stream

/-- The keys that are not among some names: one for each role whose key is not, in the order of the
profile, and at the end the bundle's if it is not. -/
def absent (names : List String) (stream : Stream) (p : Profile) : List String :=
  (p.roles.map fun r => componentKey r.component stream).filter (· ∉ names)
    ++ if componentKey p.bundleComponent stream ∈ names then []
      else [componentKey p.bundleComponent stream]

variable {s : Snapshot} {stream : Stream} {p : Profile}

/-! ## What is given -/

theorem resolve_eq_ok_iff_gives (hnodup : s.names.Nodup) {given : Required} :
    resolve s stream p = .ok given ↔ Gives s stream p given := by
  have hrole : ∀ r entry, IsGiven s stream r entry ↔ Names s stream r entry := by
    intro r entry
    rw [IsGiven, Snapshot.component?_eq_some hnodup]
    exact ⟨fun h => ⟨h.1, h.2.1, h.2.2⟩, fun h => ⟨h.role_eq, h.listed, h.named⟩⟩
  have hroles : List.Forall₂ (IsGiven s stream) p.roles given.roles
      ↔ List.Forall₂ (Names s stream) p.roles given.roles :=
    ⟨List.Forall₂.imp fun r entry => (hrole r entry).mp,
      List.Forall₂.imp fun r entry => (hrole r entry).mpr⟩
  rw [resolve_eq_ok, hroles, Snapshot.component?_eq_some hnodup]
  exact ⟨fun h => ⟨h.1, h.2.1, h.2.2⟩, fun h => ⟨h.roles, h.bundleListed, h.bundleNamed⟩⟩

/-! ## What is absent -/

/-- The absent keys are those of the profile without the names that are there. -/
theorem absent_eq_filter (names : List String) (stream : Stream) (p : Profile) :
    absent names stream p = (keys p stream).filter (· ∉ names) := by
  rw [absent, keys, List.filter_append]
  by_cases h : componentKey p.bundleComponent stream ∈ names <;> simp [h]

theorem missing_eq_absent : missing s p stream = absent s.names stream p := by
  rw [absent_eq_filter, missing]
  refine List.filter_congr fun key _ => ?_
  rw [Bool.eq_iff_iff, Option.isNone_iff_eq_none, Snapshot.component?_eq_none, decide_eq_true_iff]

/-- Nothing is absent just when every key is there. -/
theorem absent_eq_nil {names : List String} : absent names stream p = [] ↔
    (∀ r ∈ p.roles, componentKey r.component stream ∈ names)
      ∧ componentKey p.bundleComponent stream ∈ names := by
  rw [absent_eq_filter, List.filter_eq_nil_iff, ← forall_mem_keys]
  simp only [decide_eq_true_iff, not_not]

/-- With more names, what is absent is what was absent without the names that have come. -/
theorem absent_of_added {names names' added : List String}
    (h : ∀ name, name ∈ names' ↔ name ∈ names ∨ name ∈ added) (stream : Stream) (p : Profile) :
    absent names' stream p = (absent names stream p).filter (· ∉ added) := by
  rw [absent_eq_filter, absent_eq_filter, List.filter_filter]
  refine List.filter_congr fun key _ => ?_
  rw [← Bool.decide_and, decide_eq_decide, h, not_or, and_comm]

/-- Something is given just when nothing is absent. -/
theorem exists_resolve_iff_absent :
    (∃ given, resolve s stream p = .ok given) ↔ absent s.names stream p = [] := by
  rw [exists_resolve_eq_ok, absent_eq_nil]

/-! ## Rule by rule -/

/-- The key of a rule that is looked up goes to the missing ones, or its component to the found
ones. -/
theorem Progress.lookUp_eq (so : Progress) (r : Rule) : so.lookUp s stream r =
    ⟨so.found ++ (ofRule? s stream r).toList,
      so.missing ++ [componentKey r.component stream].filter (· ∉ s.names)⟩ := by
  rw [lookUp, ofRule?]
  cases hkey : s.component? (componentKey r.component stream) with
  | some c =>
      have hname := (s.exists_component?_eq_some _).mp ⟨c, hkey⟩
      simp [hname]
  | none =>
      have hname := (s.component?_eq_none _).mp hkey
      simp [hname]

/-- Rules that are looked up one after the other add their components and their absent keys, both
in the order of the rules. -/
theorem Progress.foldl_lookUp (rules : List Rule) : ∀ so : Progress,
    rules.foldl (lookUp s stream) so =
      ⟨so.found ++ rules.filterMap (ofRule? s stream),
        so.missing
          ++ (rules.map fun r => componentKey r.component stream).filter (· ∉ s.names)⟩ := by
  induction rules with
  | nil =>
      intro so
      simp
  | cons r rules ih =>
      intro so
      rw [List.foldl_cons, ih, lookUp_eq, List.append_assoc, List.append_assoc,
        ← List.filter_append, List.filterMap_cons]
      cases ofRule? s stream r <;> rfl

/-- When every rule has its component, those are what is found. -/
theorem filterMap_of_given {rules : List Rule} {given : List (String × Component)}
    (h : List.Forall₂ (IsGiven s stream) rules given) :
    rules.filterMap (ofRule? s stream) = given := by
  induction h with
  | nil => rfl
  | cons hfirst _ ih =>
      rw [List.filterMap_cons, (ofRule?_eq_some ..).mpr hfirst, ih]

/-- Rule by rule, a snapshot gives what it gives at once. -/
theorem ofSnapshot_eq_mapError : ofSnapshot s stream p =
    (resolve s stream p).mapError fun missing => .missingComponents missing s.names := by
  have hmissing : (if (s.component? (componentKey p.bundleComponent stream)).isNone then
        (p.roles.map fun r => componentKey r.component stream).filter (· ∉ s.names)
          ++ [componentKey p.bundleComponent stream]
      else (p.roles.map fun r => componentKey r.component stream).filter (· ∉ s.names))
        = missing s p stream := by
    rw [missing_eq_absent, absent]
    by_cases hname : componentKey p.bundleComponent stream ∈ s.names
    · obtain ⟨c, hc⟩ := (s.exists_component?_eq_some _).mpr hname
      simp [hname, hc]
    · have hc := (s.component?_eq_none _).mpr hname
      simp [hname, hc]
  simp only [ofSnapshot, Progress.foldl_lookUp, List.nil_append, hmissing]
  cases hresolve : resolve s stream p with
  | ok given =>
      obtain ⟨hroles, hbundle⟩ := resolve_eq_ok.mp hresolve
      rw [hbundle, missing_eq_absent, exists_resolve_iff_absent.mp ⟨given, hresolve⟩,
        filterMap_of_given hroles]
      rfl
  | error told =>
      obtain ⟨rfl, hsome⟩ := resolve_eq_error hresolve
      obtain ⟨key, keys, hkeys⟩ := List.exists_cons_of_ne_nil hsome
      rw [hkeys]
      cases s.component? (componentKey p.bundleComponent stream) <;> rfl

theorem ofSnapshot_eq_ok {given : Required} :
    ofSnapshot s stream p = .ok given ↔ resolve s stream p = .ok given := by
  rw [ofSnapshot_eq_mapError]
  cases resolve s stream p with
  | error missing => exact ⟨fun h => (nomatch h), fun h => (nomatch h)⟩
  | ok given' =>
      exact ⟨fun h => congrArg Except.ok (Except.ok.inj h),
        fun h => congrArg Except.ok (Except.ok.inj h)⟩

theorem ofSnapshot_eq_error {f : Failure} : ofSnapshot s stream p = .error f ↔
    absent s.names stream p ≠ [] ∧ f = .missingComponents (absent s.names stream p) s.names := by
  rw [ofSnapshot_eq_mapError, Ne, ← exists_resolve_iff_absent]
  cases hresolve : resolve s stream p with
  | ok given =>
      constructor
      · intro h
        exact nomatch h
      · intro h
        exact absurd ⟨given, rfl⟩ h.1
  | error told =>
      obtain ⟨htold, -⟩ := resolve_eq_error hresolve
      rw [missing_eq_absent] at htold
      constructor
      · intro h
        refine ⟨fun ⟨given, hgiven⟩ => (nomatch hgiven), ?_⟩
        rw [← htold]
        exact (Except.error.inj h).symm
      · rintro ⟨-, hf⟩
        rw [hf, ← htold]
        rfl

/-! ## What is added -/

/-- Adding components to a snapshot adds their names. -/
theorem mem_names_of_perm {s s' : Snapshot} {added : List Component}
    (h : s'.components.Perm (s.components ++ added)) (name : String) :
    name ∈ s'.names ↔ name ∈ s.names ∨ name ∈ added.map Component.name := by
  rw [Snapshot.names, Snapshot.names, ← List.mem_append, ← List.map_append]
  exact (h.map Component.name).mem_iff

/-- A profile is given its components just when they are all there. Otherwise it is told the absent
keys, and adding components repairs just those of their names. -/
theorem gives_or_tells_absent {raw : String} {s : Snapshot} (hread : (Snapshot.read raw).2 = .ok s)
    (stream : Stream) (p : Profile) :
    ((∃ given, ofSnapshot s stream p = .ok given) ↔
        (∀ r ∈ p.roles, componentKey r.component stream ∈ s.names)
          ∧ componentKey p.bundleComponent stream ∈ s.names)
      ∧ (∀ given, ofSnapshot s stream p = .ok given ↔ Gives s stream p given)
      ∧ (∀ f, ofSnapshot s stream p = .error f ↔ absent s.names stream p ≠ []
          ∧ f = .missingComponents (absent s.names stream p) s.names)
      ∧ ∀ (s' : Snapshot) (added : List Component),
          s'.components.Perm (s.components ++ added) →
            ((∃ given, ofSnapshot s' stream p = .ok given) ↔
              ∀ key ∈ absent s.names stream p, key ∈ added.map Component.name)
            ∧ ∀ f, ofSnapshot s' stream p = .error f ↔
              (absent s.names stream p).filter (· ∉ added.map Component.name) ≠ []
                ∧ f = .missingComponents
                  ((absent s.names stream p).filter (· ∉ added.map Component.name)) s'.names := by
  refine ⟨?_, fun given => ?_, fun f => ofSnapshot_eq_error, fun s' added hperm => ?_⟩
  · simp only [ofSnapshot_eq_ok]
    exact exists_resolve_eq_ok
  · rw [ofSnapshot_eq_ok, resolve_eq_ok_iff_gives (Snapshot.names_nodup_of_read hread)]
  · have hleft := absent_of_added (mem_names_of_perm hperm) stream p
    rw [← hleft]
    refine ⟨?_, fun f => ofSnapshot_eq_error⟩
    simp only [ofSnapshot_eq_ok]
    rw [exists_resolve_iff_absent, hleft, List.filter_eq_nil_iff]
    simp only [decide_eq_true_iff, not_not]

namespace Sample

/-- A profile with two roles for one component. -/
def twice : Profile :=
  ⟨"/m/", "b", ⟨"c", "m"⟩,
    [⟨"operator", "o", .configMap, "@(a+)"⟩, ⟨"agent", "o", .clusterServiceVersion, "@(b+)"⟩]⟩

end Sample

theorem sample_gives_or_tells_absent : ∃ raw s,
    (Snapshot.read raw).2 = .ok s
      ∧ ofSnapshot s .minor Sample.twice
        = .error (.missingComponents ["o-ystream", "o-ystream", "b-ystream"] ["x"])
      ∧ ∀ s' : Snapshot, s'.components.Perm (s.components ++ [⟨"o-ystream", "o"⟩]) →
        ofSnapshot s' .minor Sample.twice = .error (.missingComponents ["b-ystream"] s'.names) := by
  have hread : (Snapshot.read "[\"ystream\", [[\"x\", \"y\"]]]").2
      = .ok ⟨"ystream", .minor, [⟨"x", "y"⟩]⟩ := by
    decide +kernel
  obtain ⟨-, -, htells, hadded⟩ := gives_or_tells_absent hread .minor Sample.twice
  refine ⟨_, _, hread, (htells _).mpr ⟨by decide, by decide⟩, fun s' hperm => ?_⟩
  exact ((hadded s' _ hperm).2 _).mpr ⟨by decide, rfl⟩

end Required

end ReleaseGate
