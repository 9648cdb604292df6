import ReleaseGate.Proofs.WellFormed

/-!
# The form of a digest, said in three ways

A digest has the expected form when it is the name of the algorithm and one or more hexadecimal
digits, when the reader of snapshots says so, and when the pattern `^sha256:[a-f0-9]+$` matches.
The anchors of this pattern hold at the ends of the text only. So a match begins at the first
character and takes all of them, and nothing may follow the digits, not even the end of a line.
-/

namespace ReleaseGate

open Relation Unicode

namespace Digest

/-- The name of the algorithm, one or more hexadecimal digits in lower case, and nothing else. -/
def Expected (digest : String) : Prop :=
  ∃ digits, digest.toList = "sha256:".toList ++ digits ∧ digits ≠ []
    ∧ ∀ c ∈ digits, ('a' ≤ c ∧ c ≤ 'f') ∨ ('0' ≤ c ∧ c ≤ '9')

/-- What makes a digest unexpected, whatever the rest of it is like. -/
inductive Odd (digest : String) : Prop where
  | empty : digest = "" → Odd digest
  | lineFeed : '\n' ∈ digest.toList → Odd digest
  | secondSign : '@' ∈ digest.toList → Odd digest
  | upperCase {c : Char} : c ∈ digest.toList → c.isUpper = true → Odd digest

theorem isSha256_iff_expected {digest : String} : isSha256 digest = true ↔ Expected digest := by
  have hhex : ∀ c, isHexDigit c = true ↔ ('a' ≤ c ∧ c ≤ 'f') ∨ ('0' ≤ c ∧ c ≤ '9') := by
    intro c
    simp [isHexDigit]
  simp only [isSha256_iff, hhex]
  rfl

theorem not_expected_of_odd {digest : String} (h : Odd digest) : ¬ Expected digest := by
  intro hform
  have hplain := plain_of_isSha256 (isSha256_iff_expected.mpr hform)
  cases h with
  | empty hempty =>
      obtain ⟨digits, hdigest, -⟩ := hform
      rw [hempty] at hdigest
      cases hdigest
  | lineFeed hmem =>
      have hblank := (hplain _ hmem).notBlank
      revert hblank
      decide
  | secondSign hmem => exact (hplain _ hmem).notSign rfl
  | upperCase hmem hupper =>
      rw [(hplain _ hmem).notUpper] at hupper
      cases hupper

end Digest

namespace Pattern

/-! ## Texts in which a pattern matches -/

/-- A compiled pattern matches somewhere in a text. -/
def Occurs (p : Pattern) (text : String) : Prop :=
  search p.program p.entry text.toList ≠ none

theorem occurs_iff_matches {source : String} {p : Pattern} {c : Core}
    (hp : compile source = .ok p) (hc : coreOfText source = .ok c) (text : String) :
    p.Occurs text ↔ ∃ i t, c.Matches text.toList i t := by
  obtain ⟨-, rfl⟩ := (compile_of_core hc).mp hp
  rw [Occurs, program_ofCore, entry_ofCore, Ne, search_eq_none]
  simp only [matchesAt_ofCore]
  push Not
  constructor
  · rintro ⟨i, _, t, ht, -⟩
    exact ⟨i, t, ht⟩
  · rintro ⟨i, t, ht⟩
    exact ⟨i, _, t, ht, rfl⟩

/-! ## Literal text and runs, as relations -/

theorem Spot.rest_beyond {s : Spot} {cs rest : List Char} (h : s.rest = cs ++ rest) :
    (s.beyond cs).rest = rest := by
  rw [beyond_rest, h, List.drop_left]

theorem takes_iff {set : CharSet} {s t : Spot} : Spot.Takes set s t ↔
    ∃ c rest, s.rest = c :: rest ∧ set.contains c = true ∧ t = s.past c rest :=
  Iff.rfl

theorem spans_literal (cs : List Char) (c : Core) {s t : Spot} : (Core.literal cs c).Spans s t ↔
    ∃ rest, s.rest = cs ++ rest ∧ c.Spans (s.beyond cs) t := by
  induction cs generalizing s with
  | nil =>
      show c.Spans s t ↔ ∃ rest, s.rest = rest ∧ c.Spans s t
      exact ⟨fun h => ⟨_, rfl, h⟩, fun ⟨_, _, h⟩ => h⟩
  | cons first cs ih =>
      show (∃ u, Spot.Takes (CharSet.single first) s u ∧ (Core.literal cs c).Spans u t) ↔ _
      constructor
      · rintro ⟨u, htakes, hspans⟩
        obtain ⟨next, rest, hrest, hnext, rfl⟩ := takes_iff.mp htakes
        rw [CharSet.contains_single, beq_iff_eq] at hnext
        subst hnext
        obtain ⟨more, hmore, hspans⟩ := ih.mp hspans
        rw [Spot.past_rest] at hmore
        refine ⟨more, hrest.trans (congrArg (next :: ·) hmore), ?_⟩
        rw [Spot.beyond_cons hrest]
        exact hspans
      · rintro ⟨rest, hrest, hspans⟩
        rw [Spot.beyond_cons hrest] at hspans
        refine ⟨_, takes_iff.mpr ⟨first, cs ++ rest, hrest, ?_, rfl⟩, ih.mpr ⟨rest, rfl, hspans⟩⟩
        rw [CharSet.contains_single, beq_self_eq_true]

/-- So many characters of a set stand there and are taken. -/
theorem times_takes (set : CharSet) (n : Nat) {s t : Spot} : Times (Spot.Takes set) n s t ↔
    ∃ cs, cs.length = n ∧ (∀ c ∈ cs, set.contains c = true) ∧ (∃ rest, s.rest = cs ++ rest)
      ∧ t = s.beyond cs := by
  induction n generalizing s t with
  | zero =>
      constructor
      · rintro rfl
        exact ⟨[], rfl, List.forall_mem_nil _, ⟨_, rfl⟩, rfl⟩
      · rintro ⟨cs, hlength, -, -, rfl⟩
        rw [List.eq_nil_of_length_eq_zero hlength]
        rfl
  | succ n ih =>
      show (∃ u, Spot.Takes set s u ∧ Times (Spot.Takes set) n u t) ↔ _
      constructor
      · rintro ⟨u, htakes, htimes⟩
        obtain ⟨c, more, hmore, hc, rfl⟩ := takes_iff.mp htakes
        obtain ⟨cs, hlength, hcs, ⟨rest, hrest⟩, rfl⟩ := ih.mp htimes
        rw [Spot.past_rest] at hrest
        refine ⟨c :: cs, congrArg (· + 1) hlength, List.forall_mem_cons.mpr ⟨hc, hcs⟩,
          ⟨rest, hmore.trans (congrArg (c :: ·) hrest)⟩, ?_⟩
        rw [Spot.beyond_cons hmore]
      · rintro ⟨cs, hlength, hcs, ⟨rest, hrest⟩, rfl⟩
        obtain ⟨c, cs, rfl⟩ := List.exists_cons_of_length_eq_add_one hlength
        obtain ⟨hc, hcs⟩ := List.forall_mem_cons.mp hcs
        rw [List.cons_append] at hrest
        rw [Spot.beyond_cons hrest]
        exact ⟨_, takes_iff.mpr ⟨c, cs ++ rest, hrest, hc, rfl⟩,
          ih.mpr ⟨cs, Nat.succ.inj hlength, hcs, ⟨rest, rfl⟩, rfl⟩⟩

theorem spans_someRun (set : CharSet) {s t : Spot} : (Core.someRun set).Spans s t ↔
    ∃ cs, cs ≠ [] ∧ (∀ c ∈ cs, set.contains c = true) ∧ (∃ rest, s.rest = cs ++ rest)
      ∧ t = s.beyond cs := by
  show (∃ n, (1 ≤ n ∧ ∀ m ∈ none, n ≤ max 1 m) ∧ Times (Spot.Takes set) n s t) ↔ _
  simp only [times_takes]
  constructor
  · rintro ⟨_, ⟨hsome, -⟩, cs, rfl, h⟩
    exact ⟨cs, List.ne_nil_of_length_pos hsome, h⟩
  · rintro ⟨cs, hnil, h⟩
    exact ⟨_, ⟨List.length_pos_of_ne_nil hnil, fun m hm => (nomatch hm)⟩, cs, rfl, h⟩

/-! ## Anchored patterns -/

namespace Core

/-- A pattern for the text as a whole. -/
def whole (c : Core) : Core :=
  .seq (.look .textStart) c

/-- Only at the start of a text there is nothing in front. -/
theorem matches_whole (c : Core) {text : List Char} {i : Nat} {t : Spot} :
    (whole c).Matches text i t ↔ i = 0 ∧ c.Spans (Spot.within text 0) t := by
  have hstart : Look.textStart.holds (Spot.within text i).neighbours = true
      ↔ i = 0 ∨ text = [] := by
    simp [Look.holds, Spot.neighbours, Spot.within]
  constructor
  · rintro ⟨hi, _, ⟨hholds, rfl⟩, hspans⟩
    have hzero : i = 0 := by
      rcases hstart.mp hholds with hi' | rfl
      · exact hi'
      · exact Nat.le_zero.mp hi
    exact ⟨hzero, hzero ▸ hspans⟩
  · rintro ⟨rfl, hspans⟩
    exact ⟨Nat.zero_le _, _, ⟨hstart.mpr (.inl rfl), rfl⟩, hspans⟩

/-- A digest up to the end of the text. -/
def digestLine : Core :=
  whole (literal Digest.algorithm (.seq (someRun hexDigits) (.look .textEnd)))

/-- All characters are taken: the algorithm and the digits stand at the start of the text, and
behind the digits there is nothing. -/
theorem matches_digestLine {text : List Char} : (∃ i t, digestLine.Matches text i t) ↔
    ∃ digits, text = Digest.algorithm ++ digits ∧ digits ≠ []
      ∧ ∀ c ∈ digits, Digest.isHexDigit c = true := by
  have hend : ∀ {s : Spot}, Look.textEnd.holds s.neighbours = true ↔ s.rest = [] := by
    intro s
    simp [Look.holds, Spot.neighbours]
  simp only [digestLine, matches_whole, spans_literal, ← contains_hexDigits]
  constructor
  · rintro ⟨_, _, -, rest, htext, _, hdigits, hlook, -⟩
    obtain ⟨digits, hnil, hhex, ⟨more, hmore⟩, rfl⟩ := (spans_someRun _).mp hdigits
    rw [Spot.rest_beyond htext] at hmore
    -- what is behind the digits is empty, since the text ends there
    have hover : more = [] := by
      rw [← hend.mp hlook, Spot.rest_beyond (Spot.rest_beyond htext ▸ hmore)]
    rw [hover, List.append_nil] at hmore
    exact ⟨digits, hmore ▸ htext, hnil, hhex⟩
  · rintro ⟨digits, htext, hnil, hhex⟩
    have hstart : (Spot.within text 0).rest = Digest.algorithm ++ digits := htext
    have hrun : ((Spot.within text 0).beyond Digest.algorithm).rest = digits ++ [] :=
      (Spot.rest_beyond hstart).trans (List.append_nil digits).symm
    have hdigits := (spans_someRun hexDigits).mpr ⟨digits, hnil, hhex, ⟨[], hrun⟩, rfl⟩
    exact ⟨0, _, rfl, digits, hstart, _, hdigits, hend.mpr (Spot.rest_beyond hrun), rfl⟩

end Core

end Pattern

namespace Digest

/-- The form of a digest as a pattern. -/
def form : String := "^sha256:[a-f0-9]+$"

/-- The pattern compiles, and it matches just the digests of the expected form. -/
theorem exists_compile_form : ∃ p, Pattern.compile form = .ok p
    ∧ ∀ digest, p.Occurs digest ↔ Expected digest := by
  have hcore : Pattern.coreOfText form = .ok Pattern.Core.digestLine := by
    decide +kernel
  have hp := (Pattern.compile_of_core hcore).mpr ⟨by decide +kernel, rfl⟩
  refine ⟨_, hp, fun digest => ?_⟩
  rw [Pattern.occurs_iff_matches hp hcore, Pattern.Core.matches_digestLine,
    ← isSha256_iff_expected, isSha256_iff]

end Digest

end ReleaseGate
