import ReleaseGate.Proofs.BuiltIn

/-!
# Well-formed digests

An image reference is split at its first at sign and what stands behind it is not looked at any
further: the snapshot may hold anything there. Under the built-in profile this does no harm. What
its rules find in a manifest has the form of a digest, so the digest of a component can match only
if it has that form too, and an image that is flawed behind its at sign never matches.
-/

namespace ReleaseGate

/-! ## Flaws of an image reference -/

namespace Digest

/-- What keeps an image from being pinned by a digest of the right form. -/
inductive Flawed (image : String) : Prop where
  | noSign : '@' ∉ image.toList → Flawed image
  | secondSign {before after : List Char} :
      image.toList = before ++ '@' :: after → '@' ∈ after → Flawed image
  | upperCase {before after : List Char} {c : Char} :
      image.toList = before ++ '@' :: after → c ∈ after → c.isUpper = true → Flawed image
  | whiteSpace {before after : List Char} {c : Char} :
      image.toList = before ++ '@' :: after → c ∈ after → Text.isBlank c = true → Flawed image

/-- A character as it may stand in a digest of the right form. -/
structure Plain (c : Char) : Prop where
  notSign : c ≠ '@'
  notUpper : c.isUpper = false
  notBlank : Text.isBlank c = false

theorem plain_of_mem_algorithm : ∀ c ∈ algorithm, Plain c := by
  have hsign : '@' ∉ algorithm := by decide
  have hupper : algorithm.all (fun c => !c.isUpper) = true := by decide
  have hblank : algorithm.all (fun c => !Text.isBlank c) = true := by decide
  intro c hc
  refine ⟨fun h => hsign (h ▸ hc), ?_, ?_⟩
  · simpa using List.all_eq_true.mp hupper c hc
  · simpa using List.all_eq_true.mp hblank c hc

theorem plain_of_isHexDigit {c : Char} (h : isHexDigit c = true) : Plain c := by
  rw [isHexDigit_iff] at h
  refine ⟨?_, ?_, ?_⟩
  · rintro rfl
    revert h
    decide
  · refine decide_eq_false fun hupper => ?_
    have hfrom : 65 ≤ c.toNat := hupper.1
    have hto : c.toNat ≤ 90 := hupper.2
    omega
  · simp [Text.isBlank]
    omega

theorem plain_of_isSha256 {d : String} (h : isSha256 d = true) : ∀ c ∈ d.toList, Plain c := by
  obtain ⟨digits, hdigits, -, hhex⟩ := isSha256_iff.mp h
  intro c hc
  rw [hdigits] at hc
  rcases List.mem_append.mp hc with hc | hc
  · exact plain_of_mem_algorithm c hc
  · exact plain_of_isHexDigit (hhex c hc)

/-- What stands behind any at sign is at the end of what stands behind the first one. -/
theorem suffix_of_first_sign {name digest before after : List Char} (hname : '@' ∉ name)
    (h : name ++ '@' :: digest = before ++ '@' :: after) : after <:+ digest := by
  rcases List.append_eq_append_iff.mp h with ⟨more, -, hmore⟩ | ⟨more, rfl, hmore⟩
  · cases more with
    | nil => exact (List.cons.inj hmore).2 ▸ List.suffix_refl _
    | cons c more =>
        rw [(List.cons.inj hmore).2]
        exact (List.suffix_cons '@' after).trans (List.suffix_append more _)
  · cases more with
    | nil => exact (List.cons.inj hmore).2 ▸ List.suffix_refl _
    | cons c more =>
        rw [← (List.cons.inj hmore).1] at hname
        exact absurd (List.mem_append_right before (List.mem_cons_self ..)) hname

/-- An image that is pinned by a digest of the right form is not flawed. -/
theorem not_flawed {image d : String} (h : Pins d image) (hform : isSha256 d = true) :
    ¬ Flawed image := by
  obtain ⟨name, hname, himage⟩ := h
  have hplain : ∀ {before after : List Char} {c : Char}, image.toList = before ++ '@' :: after →
      c ∈ after → Plain c := by
    intro before after c hsplit hc
    have hsuffix := suffix_of_first_sign hname (himage.symm.trans hsplit)
    exact plain_of_isSha256 hform c (hsuffix.subset hc)
  intro hflawed
  cases hflawed with
  | noSign hno =>
      rw [himage] at hno
      exact hno (List.mem_append_right name (List.mem_cons_self ..))
  | secondSign hsplit hc => exact (hplain hsplit hc).notSign rfl
  | upperCase hsplit hc hupper =>
      rw [(hplain hsplit hc).notUpper] at hupper
      cases hupper
  | whiteSpace hsplit hc hblank =>
      rw [(hplain hsplit hc).notBlank] at hblank
      cases hblank

end Digest

/-! ## References -/

namespace References

/-- Every digest has the right form and is a piece of the manifest that its rule names. -/
def WellFormed (refs : References) (p : Profile) (m : ByManifest) : Prop :=
  ∀ role d, (role, some d) ∈ refs.digests → Digest.isSha256 d = true
    ∧ ∃ r ∈ p.roles, r.role = role ∧ d.toList <:+: (m.get r.manifest).toList

/-- What is looked up for a role is listed beside it. -/
theorem mem_of_get? {refs : References} {role d : String} (h : refs.get? role = some d) :
    (role, some d) ∈ refs.digests := by
  obtain ⟨before, after, hdigests, -⟩ := List.lookup_eq_some_iff.mp (Option.join_eq_some_iff.mp h)
  rw [hdigests]
  exact List.mem_append_right before List.mem_cons_self

theorem wellFormed_of_builtIn {rs : Rules} (h : Profile.builtIn.compile = .ok rs)
    (m : ByManifest) : (ofManifests rs m).WellFormed Profile.builtIn m := by
  intro role d hmem
  obtain ⟨c, hc, hpair⟩ := List.mem_map.mp hmem
  obtain ⟨hrole, hd⟩ := Prod.mk.inj hpair
  obtain ⟨hprofile, hchecked⟩ := (Profile.compile_eq_ok _ _).mp h
  obtain ⟨hform, hpiece⟩ := Rules.digest_of_builtIn h hc hd
  exact ⟨hform, c.1, hprofile ▸ hchecked.mem_roles.mpr ⟨c, hc, rfl⟩, hrole, hpiece⟩

end References

/-! ## Matches -/

namespace Validation

/-- What the outcome of a rule says of the component that it compares. -/
structure Compares (s : Snapshot) (m : ByManifest) (o : RoleOutcome) (r : Rule) (c : Component) :
    Prop where
  role : r.role = o.role
  listed : c ∈ s.components
  named : c.name = componentKey r.component s.stream
  same : o.outcome = .same → ∃ d, Digest.Pins d c.image ∧ Digest.isSha256 d = true
    ∧ d.toList <:+: (m.get r.manifest).toList
  flawed : Digest.Flawed c.image → o.outcome ≠ .same

/-- A digest that matches has been found in the rule's manifest, so it has the right form. -/
theorem compares_of_isGiven {rs : Rules} (hrs : Profile.builtIn.compile = .ok rs) {s : Snapshot}
    (hnodup : s.names.Nodup) (m : ByManifest) {r : Rule} (hr : r ∈ Profile.builtIn.roles)
    {given : String × Component} (h : Required.IsGiven s s.stream r given) :
    Compares s m ⟨given.1, given.2.digest, (References.ofManifests rs m).get? given.1⟩ r
      given.2 := by
  obtain ⟨hprofile, hchecked⟩ := (Profile.compile_eq_ok _ _).mp hrs
  rw [← hprofile] at hr
  obtain ⟨c, hc, rfl⟩ := hchecked.mem_roles.mp hr
  obtain ⟨hlisted, hnamed⟩ := (Snapshot.component?_eq_some hnodup _ _).mp h.2
  have hsame : RoleOutcome.outcome
        ⟨given.1, given.2.digest, (References.ofManifests rs m).get? given.1⟩ = .same →
      ∃ d, Digest.Pins d given.2.image ∧ Digest.isSha256 d = true
        ∧ d.toList <:+: (m.get c.1.manifest).toList := by
    intro hsame
    obtain ⟨d, hexpected, hactual⟩ := (RoleOutcome.outcome_eq_same _).mp hsame
    rw [h.1, hchecked.get?_ofManifests m hc] at hactual
    exact ⟨d, (Digest.ofImage_eq_some _ _).mp hexpected, Rules.digest_of_builtIn hrs hc hactual⟩
  refine ⟨h.1.symm, hlisted, hnamed, hsame, fun hflawed hmatch => ?_⟩
  obtain ⟨d, hpins, hform, -⟩ := hsame hmatch
  exact Digest.not_flawed hpins hform hflawed

theorem temporary_of_extracted {extractor : Extractor} {rs : Rules} {image : String}
    {t : Temporary} {refs : References} (h : extracted extractor rs image t = .ok refs) :
    t.entries ≠ none := by
  intro hnone
  rw [extracted, hnone] at h
  cases h

/-- Under the built-in profile only digests of the right form are found, and only such match. -/
theorem builtIn_digests_wellFormed : ∃ rs, Profile.builtIn.compile = .ok rs
    ∧ (∀ m, (References.ofManifests rs m).WellFormed Profile.builtIn m)
    ∧ ∀ raw extractor w v, ((validate raw extractor rs).exec w).1 = .ok v →
      ∃ s bundle m, (Snapshot.read raw).2 = .ok s ∧ IsBundle rs s bundle
        ∧ (extractor bundle.image rs.profile.imagePath (Extraction.destination w.temporary)).Leaves
          rs.profile m
        ∧ (∀ o ∈ v.outcomes, o.actual = (References.ofManifests rs m).get? o.role)
        ∧ List.Forall₂ (fun r o => ∃ c, Compares s m o r c) Profile.builtIn.roles v.outcomes := by
  obtain ⟨rs, hrs⟩ := Profile.exists_compile_builtIn
  obtain ⟨hprofile, hchecked⟩ := (Profile.compile_eq_ok _ _).mp hrs
  refine ⟨rs, hrs, References.wellFormed_of_builtIn hrs, fun raw extractor w v hv => ?_⟩
  obtain ⟨s, r, refs, hsurveys, hx, rfl⟩ := exists_surveys_of_ok hv
  obtain ⟨m, hleaves, rfl⟩ :=
    (extracted_eq_ok hchecked.sound (temporary_of_extracted hx)).mp hx
  have hnodup := Snapshot.names_nodup_of_read hsurveys.read
  have hgiven := (Required.resolve_eq_ok.mp hsurveys.resolved).1
  rw [hprofile] at hgiven
  refine ⟨s, r.bundle, m, hsurveys.read, hsurveys.isBundle, hleaves, ?_, ?_⟩
  · intro o ho
    obtain ⟨given, -, rfl⟩ := List.mem_map.mp ho
    rfl
  · rw [verdictOf, List.forall₂_map_right_iff]
    have hmem := (List.forall₂_and_left _ _).mpr
      ⟨fun r (hr : r ∈ Profile.builtIn.roles) => hr, hgiven⟩
    exact hmem.imp fun r given h => ⟨given.2, compares_of_isGiven hrs hnodup m h.1 h.2⟩

namespace Sample

/-- A snapshot with the four components of the built-in profile. -/
def release : Snapshot :=
  ⟨"ystream", .minor,
    [⟨"bpfman-operator-ystream", "o"⟩, ⟨"bpfman-agent-ystream", "a@sha256:0b"⟩,
      ⟨"bpfman-daemon-ystream", "d"⟩, ⟨"bpfman-operator-bundle-ystream", "b"⟩]⟩

/-- The text of this snapshot. -/
def released : String :=
  "[\"ystream\", [[\"bpfman-operator-ystream\", \"o\"], "
    ++ "[\"bpfman-agent-ystream\", \"a@sha256:0b\"], "
    ++ "[\"bpfman-daemon-ystream\", \"d\"], [\"bpfman-operator-bundle-ystream\", \"b\"]]]"

/-- What the built-in rules are given. -/
def given : Required :=
  ⟨[("operator", ⟨"bpfman-operator-ystream", "o"⟩),
    ("agent", ⟨"bpfman-agent-ystream", "a@sha256:0b"⟩),
    ("daemon", ⟨"bpfman-daemon-ystream", "d"⟩)], ⟨"bpfman-operator-bundle-ystream", "b"⟩⟩

/-- The manifests of a bundle that cites the agent. -/
def cited : ByManifest :=
  ⟨"", "bpfman.agent.image: a@sha256:0b"⟩

/-- A tool that leaves these manifests. -/
def citing : Extractor := fun _ _ _ =>
  ⟨[(Profile.builtIn.fileNames.clusterServiceVersion,
      .file (Text.encode cited.clusterServiceVersion)),
    (Profile.builtIn.fileNames.configMap, .file (Text.encode cited.configMap))], none, []⟩

theorem leaves_cited (image : String) (t : Temporary) :
    (citing image Profile.builtIn.imagePath (Extraction.destination t)).Leaves Profile.builtIn
      cited := by
  refine ⟨rfl, ?_, ?_⟩
  · exact ⟨⟨by decide, by decide, by decide, by decide, by decide, by decide⟩, rfl⟩
  · exact ⟨⟨by decide, by decide, by decide, by decide, by decide, by decide⟩, rfl⟩

/-- The rule of the agent finds what is cited. -/
theorem get?_cited {rs : Rules} (h : rs.Checked) (hprofile : rs.profile = Profile.builtIn) :
    (References.ofManifests rs cited).get? "agent" = some "sha256:0b" := by
  have hagent : Profile.builtIn.roles[1] ∈ rs.profile.roles := by
    rw [hprofile]
    exact List.getElem_mem _
  obtain ⟨c, hc, hrule⟩ := h.mem_roles.mp hagent
  have hget := h.get?_ofManifests cited hc
  have hcompiles := h.each c hc
  rw [hrule] at hget hcompiles
  refine hget.trans ((Profile.seeks_agent.finds c.2 hcompiles _).trans ?_)
  decide +kernel

end Sample

theorem sample_builtIn_digests_wellFormed : ∃ rs v, Profile.builtIn.compile = .ok rs
    ∧ ((validate Sample.released Sample.citing rs).exec Sample.world).1 = .ok v
    ∧ (∃ o ∈ v.outcomes, o.outcome = .same)
    ∧ ∃ s m, List.Forall₂ (fun r o => ∃ c, Compares s m o r c) Profile.builtIn.roles
      v.outcomes := by
  obtain ⟨rs, hrs, -, hruns⟩ := builtIn_digests_wellFormed
  obtain ⟨hprofile, hchecked⟩ := (Profile.compile_eq_ok _ _).mp hrs
  have hsurveys : Surveys Sample.released rs Sample.release Sample.given := by
    refine ⟨by decide +kernel, ?_⟩
    rw [hprofile]
    decide +kernel
  have hleaves := Sample.leaves_cited Sample.given.bundle.image Sample.world.temporary
  rw [← hprofile] at hleaves
  have hv := (validate_eq_ok Sample.world_ready.writable).mpr ⟨_, _, _, hsurveys,
    (extracted_eq_ok hchecked.sound Sample.world_ready.temporary).mpr ⟨_, hleaves, rfl⟩, rfl⟩
  obtain ⟨s, _, m, -, -, -, -, hcompares⟩ := hruns _ _ _ _ hv
  have hpinned : Component.digest ⟨"bpfman-agent-ystream", "a@sha256:0b"⟩
      = some "sha256:0b" := by decide
  refine ⟨rs, _, hrs, hv, ⟨_, List.mem_map_of_mem (List.mem_cons_of_mem _ List.mem_cons_self), ?_⟩,
    s, m, hcompares⟩
  have hfound := Sample.get?_cited hchecked hprofile
  exact (RoleOutcome.outcome_eq_same _).mpr ⟨"sha256:0b", hpinned, hfound⟩

end Validation

end ReleaseGate
