import ReleaseGate.Proofs.BuiltIn

/-!
# Two routes to a reference

A reference can be had by applying all rules to the manifests they name and then looking up the
role, or by looking up the pattern of the role and applying it to one text. Since every role has one
rule, and the pattern beside that rule is its own, both give the same for the manifest that the rule
names. The other manifest has no influence.
-/

namespace ReleaseGate

namespace References

/-- With distinct roles, a role has a digest just when it is listed with it. -/
theorem get?_eq_some {r : References} (hnodup : (r.digests.map Prod.fst).Nodup) {role d : String} :
    r.get? role = some d ↔ (role, some d) ∈ r.digests := by
  rw [get?, Option.join_eq_some_iff]
  constructor
  · intro h
    obtain ⟨before, after, hdigests, -⟩ := List.lookup_eq_some_iff.mp h
    rw [hdigests]
    exact List.mem_append_right _ (List.mem_cons_self ..)
  · exact lookup_of_mem hnodup

/-- A role that is not listed has no digest. -/
theorem get?_eq_none {r : References} {role : String} (h : role ∉ r.digests.map Prod.fst) :
    r.get? role = none := by
  have hlookup : r.digests.lookup role = none := by
    rw [List.lookup_eq_none_iff]
    intro entry hentry
    rw [bne_iff_ne]
    rintro rfl
    exact h (List.mem_map_of_mem hentry)
  rw [get?, hlookup]
  rfl

/-- What is found for a rule's role is what its pattern finds in the manifest that the rule names. -/
theorem get?_eq_inText {rs : Rules} (h : rs.Checked) (m : ByManifest) {r : Rule}
    (hr : r ∈ rs.profile.roles) :
    (ofManifests rs m).get? r.role = inText rs r.role (m.get r.manifest) := by
  obtain ⟨c, hc, rfl⟩ := h.mem_roles.mp hr
  rw [h.get?_ofManifests m hc, inText, h.pattern?_of_mem hc, Option.bind_some]

/-- Going through all rules and looking up a role gives what the pattern of the role finds in the
manifest that its rule names. -/
theorem routes_agree {p : Profile} {rs : Rules} (hrs : p.compile = .ok rs) (m : ByManifest) :
    (ofManifests rs m).digests.map Prod.fst = p.roles.map Rule.role
      ∧ (∀ r ∈ p.roles, rs.rule? r.role = some r
        ∧ (ofManifests rs m).get? r.role = inText rs r.role (m.get r.manifest)
        ∧ ∀ m' : ByManifest, m'.get r.manifest = m.get r.manifest →
          (ofManifests rs m').get? r.role = (ofManifests rs m).get? r.role)
      ∧ (∀ role ∉ p.roles.map Rule.role,
        rs.rule? role = none ∧ (ofManifests rs m).get? role = none)
      ∧ ∀ role d, (ofManifests rs m).get? role = some d
        ↔ (role, some d) ∈ (ofManifests rs m).digests := by
  obtain ⟨rfl, hchecked⟩ := (Profile.compile_eq_ok p rs).mp hrs
  have hroles := hchecked.map_fst_ofManifests m
  refine ⟨hroles, fun r hr => ⟨?_, get?_eq_inText hchecked m hr, fun m' hm => ?_⟩,
    fun role hrole => ⟨?_, ?_⟩, fun role d => ?_⟩
  · exact (find?_eq_some_of_nodup hchecked.distinct r.role r).mpr ⟨hr, rfl⟩
  · rw [get?_eq_inText hchecked m' hr, get?_eq_inText hchecked m hr, hm]
  · rw [Rules.rule?, List.find?_eq_none]
    intro r hr hname
    exact hrole (List.mem_map.mpr ⟨r, hr, beq_iff_eq.mp hname⟩)
  · exact get?_eq_none (hroles ▸ hrole)
  · exact get?_eq_some (hroles ▸ hchecked.distinct)

theorem builtIn_routes_agree : ∃ rs, Profile.builtIn.compile = .ok rs
    ∧ (ofManifests rs ⟨"bpfman.image: d@sha256:0a", "bpfman.image: d@sha256:0b"⟩).get?
        Profile.daemon = inText rs Profile.daemon "bpfman.image: d@sha256:0b"
    ∧ (ofManifests rs ⟨"bpfman.image: d@sha256:0a", "bpfman.image: d@sha256:0b"⟩).get? "csi"
      = none := by
  obtain ⟨rs, hrs⟩ := Profile.exists_compile_builtIn
  obtain ⟨-, hrules, hothers, -⟩ :=
    routes_agree hrs ⟨"bpfman.image: d@sha256:0a", "bpfman.image: d@sha256:0b"⟩
  exact ⟨rs, hrs, (hrules Profile.builtIn.roles[2] (List.getElem_mem _)).2.1,
    (hothers "csi" (by decide)).2⟩

end References

end ReleaseGate
