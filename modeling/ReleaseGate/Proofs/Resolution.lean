import ReleaseGate.Proofs.Snapshots
import ReleaseGate.Required

/-!
# Resolution — which components a profile is given

Each rule is given the component whose name is its key, in the order of the profile. Nothing is
given when one of the keys is the name of no component; the absent keys are told instead.
-/

namespace ReleaseGate

namespace Snapshot

/-- A key is looked up in vain just when it is the name of no component. -/
theorem component?_eq_none (s : Snapshot) (key : String) :
    s.component? key = none ↔ key ∉ s.names := by
  rw [component?, List.find?_eq_none, names, List.mem_map]
  constructor
  · rintro h ⟨c, hc, hname⟩
    exact h c hc (beq_iff_eq.mpr hname)
  · intro h c hc hname
    exact h ⟨c, hc, beq_iff_eq.mp hname⟩

theorem exists_component?_eq_some (s : Snapshot) (key : String) :
    (∃ c, s.component? key = some c) ↔ key ∈ s.names := by
  rw [← Option.ne_none_iff_exists', Ne, component?_eq_none, not_not]

end Snapshot

namespace Required

/-- A rule and its role's component. -/
def IsGiven (s : Snapshot) (stream : Stream) (r : Rule) (given : String × Component) : Prop :=
  given.1 = r.role ∧ s.component? (componentKey r.component stream) = some given.2

theorem ofRule?_eq_some (s : Snapshot) (stream : Stream) (r : Rule) (given : String × Component) :
    ofRule? s stream r = some given ↔ IsGiven s stream r given := by
  rw [ofRule?, Option.map_eq_some_iff, IsGiven]
  constructor
  · rintro ⟨c, hc, hgiven⟩
    rw [← hgiven]
    exact ⟨rfl, hc⟩
  · rintro ⟨hrole, hc⟩
    exact ⟨given.2, hc, congrArg (·, given.2) hrole.symm⟩

/-- The rules are given their components one by one. -/
theorem mapM_ofRule?_eq_some (s : Snapshot) (stream : Stream) (rules : List Rule) :
    ∀ given, rules.mapM (ofRule? s stream) = some given
      ↔ List.Forall₂ (IsGiven s stream) rules given := by
  induction rules with
  | nil =>
      intro given
      rw [List.mapM_nil, List.forall₂_nil_left_iff]
      exact ⟨fun h => (Option.some.inj h).symm, fun h => congrArg some h.symm⟩
  | cons r rules ih =>
      intro given
      rw [List.mapM_cons, Option.bind_eq_bind, Option.bind_eq_some_iff,
        List.forall₂_cons_left_iff]
      constructor
      · rintro ⟨first, hfirst, h⟩
        obtain ⟨rest, hrest, h⟩ := Option.bind_eq_some_iff.mp h
        exact ⟨first, rest, (ofRule?_eq_some s stream r first).mp hfirst, (ih rest).mp hrest,
          (Option.some.inj h).symm⟩
      · rintro ⟨first, rest, hfirst, hrest, hgiven⟩
        refine ⟨first, (ofRule?_eq_some s stream r first).mpr hfirst, ?_⟩
        exact Option.bind_eq_some_iff.mpr ⟨rest, (ih rest).mpr hrest, congrArg some hgiven.symm⟩

/-- The rules are given components when each of their keys is there. -/
theorem exists_mapM_ofRule? (s : Snapshot) (stream : Stream) (rules : List Rule) :
    (∃ given, rules.mapM (ofRule? s stream) = some given)
      ↔ ∀ r ∈ rules, componentKey r.component stream ∈ s.names := by
  simp only [mapM_ofRule?_eq_some]
  induction rules with
  | nil => exact ⟨fun _ r hr => (nomatch hr), fun _ => ⟨[], .nil⟩⟩
  | cons r rules ih =>
      rw [List.forall_mem_cons, ← ih, ← s.exists_component?_eq_some]
      constructor
      · rintro ⟨given, h⟩
        obtain ⟨first, rest, hfirst, hrest, -⟩ := List.forall₂_cons_left_iff.mp h
        exact ⟨⟨first.2, hfirst.2⟩, rest, hrest⟩
      · rintro ⟨⟨c, hc⟩, rest, hrest⟩
        exact ⟨(r.role, c) :: rest, .cons ⟨rfl, hc⟩ hrest⟩

variable {s : Snapshot} {stream : Stream} {p : Profile}

/-- What is given: a component for each rule, and one for the bundle. -/
theorem resolve_eq_ok {given : Required} : resolve s stream p = .ok given ↔
    List.Forall₂ (IsGiven s stream) p.roles given.roles
      ∧ s.component? (componentKey p.bundleComponent stream) = some given.bundle := by
  rw [resolve, ← mapM_ofRule?_eq_some]
  cases p.roles.mapM (ofRule? s stream) with
  | none => exact ⟨fun h => (nomatch h), fun h => (nomatch h.1)⟩
  | some roles =>
      cases s.component? (componentKey p.bundleComponent stream) with
      | none => exact ⟨fun h => (nomatch h), fun h => (nomatch h.2)⟩
      | some bundle =>
          constructor
          · intro h
            rw [← Except.ok.inj h]
            exact ⟨rfl, rfl⟩
          · rintro ⟨hroles, hbundle⟩
            rw [Option.some.inj hroles, Option.some.inj hbundle]

/-- The roles that are given components are those of the profile, in its order. -/
theorem map_fst_of_resolve {given : Required} (h : resolve s stream p = .ok given) :
    given.roles.map Prod.fst = p.roles.map Rule.role := by
  have hroles := (resolve_eq_ok.mp h).1.imp fun r first (h : IsGiven s stream r first) => h.1
  rw [← List.forall₂_eq_eq_eq]
  simpa using hroles.flip

/-- Something is given just when every key is the name of a component. -/
theorem exists_resolve_eq_ok : (∃ given, resolve s stream p = .ok given) ↔
    (∀ r ∈ p.roles, componentKey r.component stream ∈ s.names)
      ∧ componentKey p.bundleComponent stream ∈ s.names := by
  rw [← exists_mapM_ofRule?, ← s.exists_component?_eq_some]
  simp only [resolve_eq_ok, ← mapM_ofRule?_eq_some]
  constructor
  · rintro ⟨given, hroles, hbundle⟩
    exact ⟨⟨_, hroles⟩, _, hbundle⟩
  · rintro ⟨⟨roles, hroles⟩, bundle, hbundle⟩
    exact ⟨⟨roles, bundle⟩, hroles, hbundle⟩

/-- The missing keys are the keys that are the name of no component. -/
theorem mem_missing {key : String} :
    key ∈ missing s p stream ↔ key ∈ keys p stream ∧ key ∉ s.names := by
  rw [missing, List.mem_filter, Option.isNone_iff_eq_none, Snapshot.component?_eq_none]

theorem forall_mem_keys {P : String → Prop} : (∀ key ∈ keys p stream, P key) ↔
    (∀ r ∈ p.roles, P (componentKey r.component stream))
      ∧ P (componentKey p.bundleComponent stream) := by
  rw [keys, List.forall_mem_append, List.forall_mem_map, List.forall_mem_singleton]

/-- Otherwise the absent keys are told, and there is one. -/
theorem resolve_eq_error {absent : List String} (h : resolve s stream p = .error absent) :
    absent = missing s p stream ∧ absent ≠ [] := by
  have hmissing : absent = missing s p stream := by
    rw [resolve] at h
    cases hroles : p.roles.mapM (ofRule? s stream) with
    | none =>
        rw [hroles] at h
        exact (Except.error.inj h).symm
    | some roles =>
        cases hbundle : s.component? (componentKey p.bundleComponent stream) with
        | none =>
            rw [hroles, hbundle] at h
            exact (Except.error.inj h).symm
        | some bundle =>
            rw [hroles, hbundle] at h
            exact nomatch h
  refine ⟨hmissing, fun hnil => ?_⟩
  -- with nothing missing, everything would be given
  have hall : ∀ key ∈ keys p stream, key ∈ s.names := by
    intro key hkey
    by_contra hname
    have hmem := mem_missing.mpr ⟨hkey, hname⟩
    rw [← hmissing, hnil] at hmem
    exact nomatch hmem
  obtain ⟨given, hgiven⟩ := exists_resolve_eq_ok.mpr (forall_mem_keys.mp hall)
  rw [hgiven] at h
  exact nomatch h

end Required

end ReleaseGate
