import ReleaseGate.Proofs.Repairs

/-!
# Component keys — every key tells its name and its stream

A key is a name with the mark of a stream behind it. The marks of the streams are of one length, so
the two parts of a key can be told apart from its end, whatever the name looks like; it may well end
in a mark of its own. A component is looked up under its key and has it as its name. So what a
resolution selects bears the mark of the stream, and roles share a component only when their rules
have the same name for it.
-/

namespace ReleaseGate

namespace Stream

/-- The end of the keys of a stream. -/
def ending (stream : Stream) : List Char :=
  ("-" ++ stream.name).toList

/-- A name ends as the keys of a stream do. -/
def Ends (stream : Stream) (name : String) : Prop :=
  stream.ending <:+ name.toList

theorem length_ending (stream : Stream) : stream.ending.length = 8 := by
  cases stream <;> rfl

theorem ending_injective : Function.Injective ending := by
  intro s t
  cases s <;> cases t <;> decide

end Stream

/-! ## Keys -/

theorem toList_componentKey (name : String) (stream : Stream) :
    (componentKey name stream).toList = name.toList ++ stream.ending := by
  rw [componentKey, Stream.ending, String.append_assoc, String.toList_append]

/-- The name and the stream can be read off a key. -/
theorem componentKey_eq_iff (p q : String) (s t : Stream) :
    componentKey p s = componentKey q t ↔ p = q ∧ s = t := by
  constructor
  · intro h
    have hlist : p.toList ++ s.ending = q.toList ++ t.ending := by
      rw [← toList_componentKey, ← toList_componentKey, h]
    have hlength : s.ending.length = t.ending.length := by
      rw [s.length_ending, t.length_ending]
    obtain ⟨hname, hending⟩ := List.append_inj' hlist hlength
    exact ⟨String.toList_inj.mp hname, Stream.ending_injective hending⟩
  · rintro ⟨rfl, rfl⟩
    rfl

/-- A key ends in the mark of its own stream and in no other. -/
theorem Stream.ends_componentKey (other : Stream) (name : String) (stream : Stream) :
    other.Ends (componentKey name stream) ↔ other = stream := by
  rw [Ends, toList_componentKey]
  constructor
  · rintro ⟨front, h⟩
    have hlength : other.ending.length = stream.ending.length := by
      rw [other.length_ending, stream.length_ending]
    exact ending_injective (List.append_inj' h hlength).2
  · rintro rfl
    exact List.suffix_append ..

/-! ## Lookups -/

/-- Whatever the names of a snapshot, a component is found under its own. -/
theorem Snapshot.name_of_component? {s : Snapshot} {key : String} {c : Component}
    (h : s.component? key = some c) : c.name = key := by
  simpa using List.find?_some h

/-- Lookups of two names find one component only if the names are the same. -/
theorem Snapshot.same_component_iff {s : Snapshot} {stream : Stream} {p q : String}
    {c d : Component} (hc : s.component? (componentKey p stream) = some c)
    (hd : s.component? (componentKey q stream) = some d) : c = d ↔ p = q := by
  constructor
  · intro h
    have hkeys : componentKey p stream = componentKey q stream := by
      rw [← name_of_component? hc, ← name_of_component? hd, h]
    exact ((componentKey_eq_iff ..).mp hkeys).1
  · rintro rfl
    exact Option.some.inj (hc.symm.trans hd)

namespace Required

/-- The components that a resolution comes upon, whether or not it finds them all: those of the
rules, looked up one after the other, and the bundle's. -/
inductive Selects (s : Snapshot) (stream : Stream) (p : Profile) (c : Component) : Prop where
  | rule (role : String) :
      (role, c) ∈ (p.roles.foldl (Progress.lookUp s stream) ⟨[], []⟩).found →
      Selects s stream p c
  | bundle :
      s.component? (componentKey p.bundleComponent stream) = some c → Selects s stream p c

variable {s : Snapshot} {stream : Stream} {p : Profile}

theorem found_eq_filterMap : (p.roles.foldl (Progress.lookUp s stream) ⟨[], []⟩).found
    = p.roles.filterMap (ofRule? s stream) := by
  rw [Progress.foldl_lookUp]
  rfl

/-- What is selected was looked up under a key of the stream. -/
theorem Selects.exists_name {c : Component} (h : Selects s stream p c) :
    ∃ name, s.component? (componentKey name stream) = some c := by
  cases h with
  | rule role hfound =>
      rw [found_eq_filterMap] at hfound
      obtain ⟨r, -, hr⟩ := List.mem_filterMap.mp hfound
      exact ⟨r.component, ((ofRule?_eq_some ..).mp hr).2⟩
  | bundle hc => exact ⟨p.bundleComponent, hc⟩

/-- What is given is what was selected. -/
theorem selects_iff_of_resolve {given : Required} (h : resolve s stream p = .ok given)
    (c : Component) :
    Selects s stream p c ↔ c = given.bundle ∨ ∃ role, (role, c) ∈ given.roles := by
  obtain ⟨hroles, hbundle⟩ := resolve_eq_ok.mp h
  have hfound := found_eq_filterMap.trans (filterMap_of_given hroles)
  constructor
  · intro hc
    cases hc with
    | rule role hmem => exact .inr ⟨role, hfound ▸ hmem⟩
    | bundle hc => exact .inl (Option.some.inj (hc.symm.trans hbundle))
  · rintro (rfl | ⟨role, hmem⟩)
    · exact .bundle hbundle
    · exact .rule role (hfound ▸ hmem)

/-- A rule and what stands beside it among the roles that were given. -/
theorem isGiven_of_mem_zip {given : Required} (h : resolve s stream p = .ok given)
    {rg : Rule × (String × Component)} (hmem : rg ∈ p.roles.zip given.roles) :
    IsGiven s stream rg.1 rg.2 :=
  (List.forall₂_iff_zip.mp (resolve_eq_ok.mp h).1).2 hmem

/-- A key tells its name and its stream. So nothing that a resolution selects ends in the mark of
another stream, and when it succeeds, two roles, or a role and the bundle, share a component just
when the profile has one name for both. -/
theorem keys_never_collide :
    (∀ (p q : String) (s t : Stream), componentKey p s = componentKey q t ↔ p = q ∧ s = t)
      ∧ ∀ (s : Snapshot) (stream : Stream) (p : Profile),
        (∀ c, Selects s stream p c → ∀ other : Stream, other.Ends c.name ↔ other = stream)
        ∧ ∀ given, ofSnapshot s stream p = .ok given →
          (∀ c, Selects s stream p c ↔ c = given.bundle ∨ ∃ role, (role, c) ∈ given.roles)
          ∧ given.roles.map Prod.fst = p.roles.map Rule.role
          ∧ ∀ a ∈ p.roles.zip given.roles,
            (a.2.2 = given.bundle ↔ a.1.component = p.bundleComponent)
            ∧ ∀ b ∈ p.roles.zip given.roles,
              a.2.2 = b.2.2 ↔ a.1.component = b.1.component := by
  refine ⟨componentKey_eq_iff, fun s stream p => ⟨?_, ?_⟩⟩
  · intro c hc other
    obtain ⟨name, hname⟩ := hc.exists_name
    rw [Snapshot.name_of_component? hname]
    exact other.ends_componentKey name stream
  · intro given hgiven
    have hresolve := ofSnapshot_eq_ok.mp hgiven
    refine ⟨selects_iff_of_resolve hresolve, map_fst_of_resolve hresolve, fun a ha => ?_⟩
    have hrole := (isGiven_of_mem_zip hresolve ha).2
    have hbundle := (resolve_eq_ok.mp hresolve).2
    refine ⟨Snapshot.same_component_iff hrole hbundle, fun b hb => ?_⟩
    exact Snapshot.same_component_iff hrole (isGiven_of_mem_zip hresolve hb).2

namespace Sample

/-- A profile whose second role is named as the first one's key in another stream; its third role
shares the bundle's component. -/
def overlapping : Profile :=
  ⟨"/m/", "a", ⟨"c", "m"⟩,
    [⟨"operator", "b", .configMap, "@(a+)"⟩, ⟨"agent", "b-zstream", .configMap, "@(b+)"⟩,
      ⟨"daemon", "a", .configMap, "@(c+)"⟩]⟩

/-- A snapshot with components of both streams. -/
def mixed : Snapshot :=
  ⟨"ystream", .minor,
    [⟨"b-zstream", "0"⟩, ⟨"b-zstream-ystream", "1"⟩, ⟨"a-ystream", "2"⟩, ⟨"b-ystream", "3"⟩]⟩

/-- What the snapshot gives the profile. -/
def apart : Required :=
  ⟨[("operator", ⟨"b-ystream", "3"⟩), ("agent", ⟨"b-zstream-ystream", "1"⟩),
    ("daemon", ⟨"a-ystream", "2"⟩)], ⟨"a-ystream", "2"⟩⟩

end Sample

theorem sample_keys_never_collide :
    ofSnapshot Sample.mixed .minor Sample.overlapping = .ok Sample.apart
      ∧ ¬ Selects Sample.mixed .minor Sample.overlapping ⟨"b-zstream", "0"⟩
      ∧ ∀ a ∈ Sample.overlapping.roles.zip Sample.apart.roles,
        (a.2.2 = ⟨"a-ystream", "2"⟩ ↔ a.1.component = "a") := by
  have hgiven : ofSnapshot Sample.mixed .minor Sample.overlapping = .ok Sample.apart := by
    decide +kernel
  obtain ⟨-, hall⟩ := keys_never_collide
  obtain ⟨hselects, hshared⟩ := hall Sample.mixed .minor Sample.overlapping
  refine ⟨hgiven, fun h => ?_, fun a ha => ((hshared _ hgiven).2.2 a ha).1⟩
  -- the component of the other stream is there, and is left alone
  have hpatch : Stream.patch.Ends "b-zstream" := ⟨['b'], by decide⟩
  exact nomatch (hselects _ h .patch).mp hpatch

end Required

end ReleaseGate
