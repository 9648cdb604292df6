import ReleaseGate.Proofs.Picks
import ReleaseGate.Proofs.Roles

/-!
# The built-in rules

The pattern of every built-in rule ends in a reference pinned by digest: an at sign, the name of the
algorithm and a run of hexadecimal digits. In front of it stands the name of an image, or a key and
whatever else is on its line. So the built-in profile compiles, and what a rule finds in a manifest
can be said as a pick: it has the form of a digest and is a piece of the manifest.
-/

namespace ReleaseGate

open Pattern Unicode

/-! ## Digests ahead -/

namespace Digest

/-- The digest that comes next, as long as it can be. -/
def ahead (l : List Char) : Option String :=
  ((Pick.behind algorithm (Pick.run isHexDigit) l).map (algorithm ++ ·)).map String.ofList

/-- The digest of the pinned reference that comes next. -/
def pinnedAhead : List Char → Option String :=
  Pick.behind ['@'] ahead

/-- The digest is the name of the algorithm and then all hexadecimal digits that follow. -/
theorem ahead_eq_some {l : List Char} {d : String} : ahead l = some d ↔
    ∃ digits rest, l = algorithm ++ (digits ++ rest) ∧ d = String.ofList (algorithm ++ digits)
      ∧ digits ≠ [] ∧ (∀ c ∈ digits, isHexDigit c = true)
      ∧ ∀ c ∈ rest.head?, isHexDigit c = false := by
  simp only [ahead, Option.map_map, Option.map_eq_some_iff, Pick.behind_eq_some, Pick.run_eq_some,
    Function.comp_apply]
  constructor
  · rintro ⟨digits, ⟨_, rfl, hnil, hhex, rest, rfl, hrest⟩, rfl⟩
    exact ⟨digits, rest, rfl, rfl, hnil, hhex, hrest⟩
  · rintro ⟨digits, rest, rfl, rfl, hnil, hhex, hrest⟩
    exact ⟨digits, ⟨_, rfl, hnil, hhex, rest, rfl, hrest⟩, rfl⟩

theorem isSha256_iff {value : String} : isSha256 value = true ↔
    ∃ digits, value.toList = algorithm ++ digits ∧ digits ≠ []
      ∧ ∀ c ∈ digits, isHexDigit c = true := by
  simp only [isSha256, Bool.and_eq_true, List.isPrefixOf_iff_prefix, Bool.not_eq_true',
    List.isEmpty_eq_false_iff, List.all_eq_true, and_assoc]
  constructor
  · rintro ⟨⟨digits, hdigits⟩, hnil, hhex⟩
    rw [← hdigits, List.drop_left] at hnil hhex
    exact ⟨digits, hdigits.symm, hnil, hhex⟩
  · rintro ⟨digits, hdigits, hnil, hhex⟩
    rw [hdigits, List.drop_left]
    exact ⟨List.prefix_append _ _, hnil, hhex⟩

end Digest

namespace Pattern.Pick

/-- Everything picked has the form of a digest, and is a piece of where it is picked from. -/
def Digests (f : List Char → Option String) : Prop :=
  ∀ l, ∀ d ∈ f l, Digest.isSha256 d = true ∧ d.toList <:+: l

namespace Digests

variable {f : List Char → Option String}

theorem ahead : Digests Digest.ahead := by
  intro l d hd
  obtain ⟨digits, rest, rfl, rfl, hnil, hhex, -⟩ := Digest.ahead_eq_some.mp hd
  rw [Digest.isSha256_iff, String.toList_ofList, ← List.append_assoc]
  exact ⟨⟨digits, rfl, hnil, hhex⟩, (List.prefix_append _ _).isInfix⟩

theorem behind (h : Digests f) (cs : List Char) : Digests (Pick.behind cs f) := by
  intro l d hd
  obtain ⟨rest, rfl, hpick⟩ := behind_eq_some.mp hd
  obtain ⟨hform, hpiece⟩ := h rest d hpick
  exact ⟨hform, hpiece.trans (List.suffix_append cs rest).isInfix⟩

theorem lastOnLine (h : Digests f) : Digests (Pick.lastOnLine f) := by
  intro l d hd
  obtain ⟨skipped, rest, ⟨-, rfl⟩, hpick, -⟩ := lastOnLine_eq_some.mp hd
  obtain ⟨hform, hpiece⟩ := h rest d hpick
  exact ⟨hform, hpiece.trans (List.suffix_append skipped rest).isInfix⟩

theorem first (h : Digests f) : Digests (Pick.first f) := by
  intro l d hd
  obtain ⟨before, rest, rfl, hpick, -⟩ := first_eq_some.mp hd
  obtain ⟨hform, hpiece⟩ := h rest d hpick
  exact ⟨hform, hpiece.trans (List.suffix_append before rest).isInfix⟩

theorem pinned : Digests Digest.pinnedAhead :=
  ahead.behind ['@']

end Digests

end Pattern.Pick

/-! ## The patterns -/

namespace Pattern

namespace Core

/-- The lower-case hexadecimal digits. -/
def hexDigits : CharSet := ⟨[(0x30, 0x39), (0x61, 0x66)]⟩

/-- A digest, which is what the first group takes. -/
def digest : Core :=
  group 1 (literal Digest.algorithm (someRun hexDigits))

/-- A digest behind an at sign. -/
def pinned : Core :=
  literal ['@'] digest

/-- A pinned reference somewhere behind a key, on the same line. -/
def keyed (key : String) : Core :=
  literal key.toList (onLine pinned)

/-- A pinned reference behind the name of an image. -/
def named (image : String) : Core :=
  literal image.toList pinned

theorem contains_hexDigits : hexDigits.contains = Digest.isHexDigit := by
  funext c
  rw [Bool.eq_iff_iff, Digest.isHexDigit_iff]
  simp [CharSet.contains, CharSet.within, hexDigits]
  omega

theorem picks_pinned : pinned.Picks Digest.pinnedAhead := by
  have hdigits := Takes.someRun hexDigits
  rw [contains_hexDigits] at hdigits
  refine (Picks.group (hdigits.literal Digest.algorithm) fun l cs hcs => ?_).literal ['@']
  obtain ⟨digits, hdigits, rfl⟩ := Option.map_eq_some_iff.mp hcs
  obtain ⟨_, rfl, hrun⟩ := Pick.behind_eq_some.mp hdigits
  obtain ⟨-, -, rest, rfl, -⟩ := Pick.run_eq_some.mp hrun
  rw [← List.append_assoc]
  exact List.prefix_append _ rest

theorem steady_literal (cs : List Char) {c : Core} (h : c.Steady) : (literal cs c).Steady := by
  induction cs with
  | nil => exact h
  | cons first cs ih => exact ⟨trivial, ih⟩

theorem steady_pinned : pinned.Steady :=
  steady_literal _ (steady_literal _ ⟨fun _ => rfl, trivial⟩)

theorem steady_onLine {c : Core} (h : c.Steady) : (onLine c).Steady :=
  ⟨⟨fun _ => rfl, trivial⟩, h⟩

end Core

/-- A pattern whose core picks something out finds the first of it in a text. -/
theorem capture?_eq_first {source : String} {c : Core} {f : List Char → Option String} {p : Pattern}
    (hp : compile source = .ok p) (hc : coreOfText source = .ok c) (h : c.Steady) (hf : c.Picks f)
    (text : String) : p.capture? text = Pick.first f text.toList :=
  hf.finds (finds_capture? hp hc h text)

end Pattern

/-! ## The rules -/

namespace Rule

/-- A rule whose pattern compiles to a core with one group, which picks something out. -/
structure Seeks (r : Rule) (f : List Char → Option String) : Prop where
  compiles : ∃ p, r.CompilesTo p
  finds : ∀ p, r.CompilesTo p → ∀ text, p.capture? text = Pick.first f text.toList

theorem seeks_of_core {r : Rule} {c : Core} {f : List Char → Option String}
    (hrole : Text.blank r.role = false) (hcomponent : Text.blank r.component = false)
    (hc : coreOfText r.pattern = .ok c) (hfits : fits r.pattern = true)
    (hgroup : c.lastGroup = 1) (hsteady : c.Steady) (hf : c.Picks f) : r.Seeks f where
  compiles :=
    ⟨ofCore r.pattern c, hrole, hcomponent, (compile_of_core hc).mpr ⟨hfits, rfl⟩, hgroup⟩
  finds _ hp text := capture?_eq_first hp.compiled hc hsteady hf text

end Rule

namespace Profile

/-- The name of the operator's image. -/
def operatorImage : String := "registry.redhat.io/bpfman/bpfman-rhel9-operator"

/-- The key of the agent's image. -/
def agentKey : String := "bpfman.agent.image:"

/-- The key of the daemon's image. -/
def daemonKey : String := "bpfman.image:"

/-- What a rule for a key seeks: on the line of the key, the last pinned reference. -/
def sought (key : String) : List Char → Option String :=
  Pick.behind key.toList (Pick.lastOnLine Digest.pinnedAhead)

theorem seeks_operator : builtIn.roles[0].Seeks
    (Pick.behind operatorImage.toList Digest.pinnedAhead) := by
  have hcore : coreOfText builtIn.roles[0].pattern = .ok (Core.named operatorImage) := by
    decide +kernel
  exact Rule.seeks_of_core (by decide) (by decide) hcore (by decide +kernel) (by decide +kernel)
    (Core.steady_literal _ Core.steady_pinned) (Core.picks_pinned.literal _)

theorem seeks_agent : builtIn.roles[1].Seeks (sought agentKey) := by
  have hcore : coreOfText builtIn.roles[1].pattern = .ok (Core.keyed agentKey) := by
    decide +kernel
  exact Rule.seeks_of_core (by decide) (by decide) hcore (by decide +kernel) (by decide +kernel)
    (Core.steady_literal _ (Core.steady_onLine Core.steady_pinned))
    (Core.picks_pinned.onLine.literal _)

theorem seeks_daemon : builtIn.roles[2].Seeks (sought daemonKey) := by
  have hcore : coreOfText builtIn.roles[2].pattern = .ok (Core.keyed daemonKey) := by
    decide +kernel
  exact Rule.seeks_of_core (by decide) (by decide) hcore (by decide +kernel) (by decide +kernel)
    (Core.steady_literal _ (Core.steady_onLine Core.steady_pinned))
    (Core.picks_pinned.onLine.literal _)

/-- Every built-in rule seeks digests. -/
theorem exists_seeks {r : Rule} (hr : r ∈ builtIn.roles) : ∃ f, r.Seeks f ∧ Pick.Digests f := by
  have hkeyed : ∀ key, Pick.Digests (sought key) := fun key =>
    Pick.Digests.pinned.lastOnLine.behind key.toList
  rcases List.mem_cons.mp hr with rfl | hr
  · exact ⟨_, seeks_operator, Pick.Digests.pinned.behind _⟩
  rcases List.mem_cons.mp hr with rfl | hr
  · exact ⟨_, seeks_agent, hkeyed agentKey⟩
  · rw [List.mem_singleton.mp hr]
    exact ⟨_, seeks_daemon, hkeyed daemonKey⟩

theorem exists_compile_builtIn : ∃ rs, builtIn.compile = .ok rs := by
  refine (exists_compile_eq_ok builtIn).mpr ⟨by decide, by decide, fun r hr => ?_⟩
  obtain ⟨f, hf, -⟩ := exists_seeks hr
  exact hf.compiles

end Profile

namespace Rules

variable {rs : Rules}

/-- What the pattern of a role finds in a text is what its rule seeks. -/
theorem Checked.inText_of_seeks (h : rs.Checked) {r : Rule} (hr : r ∈ rs.profile.roles)
    {f : List Char → Option String} (hseeks : r.Seeks f) (text : String) :
    References.inText rs r.role text = Pick.first f text.toList := by
  obtain ⟨c, hc, rfl⟩ := h.mem_roles.mp hr
  rw [References.inText, h.pattern?_of_mem hc, Option.bind_some, hseeks.finds c.2 (h.each c hc)]

/-- What a compiled rule of the built-in profile finds has the form of a digest, and is a piece of
the text it is found in. -/
theorem digest_of_builtIn (h : Profile.builtIn.compile = .ok rs) {c : Rule × Pattern}
    (hc : c ∈ rs.compiled) {text d : String} (hd : c.2.capture? text = some d) :
    Digest.isSha256 d = true ∧ d.toList <:+: text.toList := by
  obtain ⟨hprofile, hchecked⟩ := (Profile.compile_eq_ok _ _).mp h
  have hrule : c.1 ∈ Profile.builtIn.roles := hprofile ▸ hchecked.mem_roles.mpr ⟨c, hc, rfl⟩
  obtain ⟨f, hf, hdigests⟩ := Profile.exists_seeks hrule
  rw [hf.finds c.2 (hchecked.each c hc)] at hd
  exact hdigests.first _ d hd

end Rules

end ReleaseGate
