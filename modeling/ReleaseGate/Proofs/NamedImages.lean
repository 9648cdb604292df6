import ReleaseGate.Proofs.KeyLines

/-!
# References to the operator's image

The cluster service version refers to the operator's image by its name and a digest right behind it.
The rule of the operator looks for an occurrence of the name that has the name of the algorithm and
a hexadecimal digit behind it, takes the first such occurrence, and of it all digits there are. The
dots of the name are dots. What stands in front of this occurrence or behind its digits has no
influence, and occurrences without a digit are passed over.
-/

namespace ReleaseGate

open Pattern

/-! ## References with digits behind them -/

/-- Behind `before` stands the beginning of a reference, and a hexadecimal digit comes next. -/
def ReferenceAt (start text : String) (before : List Char) : Prop :=
  ∃ digit rest, text.toList = before ++ (start.toList ++ digit :: rest)
    ∧ Digest.isHexDigit digit = true

/-- What a text has from the beginning of a reference up to what stands behind its digits. -/
structure Refers (start text digest : String) (before digits rest : List Char) : Prop where
  text_eq : text.toList = before ++ (start.toList ++ (digits ++ rest))
  someDigit : digits ≠ []
  hexDigits : ∀ c ∈ digits, Digest.isHexDigit c = true
  allDigits : ∀ c ∈ rest.head?, Digest.isHexDigit c = false
  digest_eq : digest.toList = Digest.algorithm ++ digits
  /-- No earlier occurrence of the beginning has a digit behind it. -/
  first : ∀ before', ReferenceAt start text before' → before.length ≤ before'.length

/-- The reference of a role is the first that begins in a given way. -/
structure FollowsReference (rs : Rules) (role start : String) : Prop where
  isSome_iff : ∀ text,
    (References.inText rs role text).isSome = true ↔ ∃ before, ReferenceAt start text before
  eq_some_iff : ∀ text digest, References.inText rs role text = some digest ↔
    ∃ before digits rest, Refers start text digest before digits rest

/-! ## What is picked -/

namespace Profile

variable {image start text digest : String}

/-- What a rule for an image seeks: the digest of a pinned reference to it. -/
def pinnedTo (image : String) : List Char → Option String :=
  Pick.behind image.toList Digest.pinnedAhead

/-- The beginning of a reference is the image's name and that of the algorithm. -/
theorem start_append (hstart : start.toList = image.toList ++ '@' :: Digest.algorithm)
    (l : List Char) : start.toList ++ l = image.toList ++ '@' :: (Digest.algorithm ++ l) := by
  rw [hstart, List.append_assoc, List.cons_append]

theorem pinnedTo_eq_some (hstart : start.toList = image.toList ++ '@' :: Digest.algorithm)
    {l : List Char} : pinnedTo image l = some digest ↔
      ∃ digits rest, l = start.toList ++ (digits ++ rest)
        ∧ digest = String.ofList (Digest.algorithm ++ digits) ∧ digits ≠ []
        ∧ (∀ c ∈ digits, Digest.isHexDigit c = true)
        ∧ ∀ c ∈ rest.head?, Digest.isHexDigit c = false := by
  simp only [pinnedTo, Pick.behind_eq_some, Digest.pinnedAhead_eq_some, start_append hstart]
  constructor
  · rintro ⟨_, rfl, digits, rest, rfl, h⟩
    exact ⟨digits, rest, rfl, h⟩
  · rintro ⟨digits, rest, rfl, h⟩
    exact ⟨_, rfl, digits, rest, rfl, h⟩

theorem isSome_pinnedTo (hstart : start.toList = image.toList ++ '@' :: Digest.algorithm)
    {l : List Char} : (pinnedTo image l).isSome = true ↔
      ∃ digit rest, l = start.toList ++ digit :: rest ∧ Digest.isHexDigit digit = true := by
  simp only [pinnedTo, Pick.isSome_behind, Digest.isSome_pinnedAhead, PinAhead,
    start_append hstart]
  constructor
  · rintro ⟨_, rfl, digit, rest, rfl, hdigit⟩
    exact ⟨digit, rest, rfl, hdigit⟩
  · rintro ⟨digit, rest, rfl, hdigit⟩
    exact ⟨_, rfl, digit, rest, rfl, hdigit⟩

theorem isSome_first_pinnedTo (hstart : start.toList = image.toList ++ '@' :: Digest.algorithm) :
    (Pick.first (pinnedTo image) text.toList).isSome = true
      ↔ ∃ before, ReferenceAt start text before := by
  simp only [Pick.isSome_first, isSome_pinnedTo hstart]
  constructor
  · rintro ⟨before, _, htext, digit, rest, rfl, hdigit⟩
    exact ⟨before, digit, rest, htext, hdigit⟩
  · rintro ⟨before, digit, rest, htext, hdigit⟩
    exact ⟨before, _, htext, digit, rest, rfl, hdigit⟩

/-- The first occurrence of the image's name with a digest behind it is picked. -/
theorem first_pinnedTo_eq_some
    (hstart : start.toList = image.toList ++ '@' :: Digest.algorithm) :
    Pick.first (pinnedTo image) text.toList = some digest
      ↔ ∃ before digits rest, Refers start text digest before digits rest := by
  rw [Pick.first_eq_some_iff_le]
  constructor
  · rintro ⟨before, _, htext, hpick, hfirst⟩
    obtain ⟨digits, rest, rfl, rfl, hnil, hhex, hrest⟩ := (pinnedTo_eq_some hstart).mp hpick
    refine ⟨before, digits, rest, htext, hnil, hhex, hrest, String.toList_ofList, ?_⟩
    rintro before' ⟨digit, rest', htext', hdigit⟩
    exact hfirst before' _ htext' ((isSome_pinnedTo hstart).mpr ⟨digit, rest', rfl, hdigit⟩)
  · rintro ⟨before, digits, rest, h⟩
    have hdigest : digest = String.ofList (Digest.algorithm ++ digits) := by
      rw [← h.digest_eq, String.ofList_toList]
    refine ⟨before, _, h.text_eq, (pinnedTo_eq_some hstart).mpr
      ⟨digits, rest, rfl, hdigest, h.someDigit, h.hexDigits, h.allDigits⟩, ?_⟩
    intro before' rest' htext' hsome
    obtain ⟨digit, more, rfl, hdigit⟩ := (isSome_pinnedTo hstart).mp hsome
    exact h.first before' ⟨digit, more, htext', hdigit⟩

end Profile

/-! ## The operator -/

/-- Under the built-in profile, the operator follows the references to its image. -/
theorem builtIn_follows_references : ∃ rs, Profile.builtIn.compile = .ok rs
    ∧ FollowsReference rs Profile.operator
      "registry.redhat.io/bpfman/bpfman-rhel9-operator@sha256:" := by
  obtain ⟨rs, hrs⟩ := Profile.exists_compile_builtIn
  obtain ⟨hprofile, hchecked⟩ := (Profile.compile_eq_ok _ _).mp hrs
  have hrole : Profile.builtIn.roles[0] ∈ rs.profile.roles := by
    rw [hprofile]
    exact List.getElem_mem _
  have hfound := hchecked.inText_of_seeks hrole Profile.seeks_operator
  have hstart : "registry.redhat.io/bpfman/bpfman-rhel9-operator@sha256:".toList
      = Profile.operatorImage.toList ++ '@' :: Digest.algorithm := by
    decide +kernel
  refine ⟨rs, hrs, fun text => ?_, fun text digest => ?_⟩
  · exact (hfound text).symm ▸ Profile.isSome_first_pinnedTo hstart
  · exact (hfound text).symm ▸ Profile.first_pinnedTo_eq_some hstart

/-- A name with another character for its dot, or without a digit behind it, is passed over. -/
example : Pick.first (Profile.pinnedTo "a.b")
    "a-b@sha256:0 a.b@sha256: a.b@sha256:0b1g a.b@sha256:2".toList = some "sha256:0b1" := by
  decide +kernel

end ReleaseGate
