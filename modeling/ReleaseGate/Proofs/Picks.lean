import Mathlib.Data.List.TakeWhile
import ReleaseGate.Digest
import ReleaseGate.Proofs.Preference

/-!
# What a pattern picks out of a text

A pattern whose first group takes part in every match can be described without spots: where it
begins, it picks something out of the characters that follow, or it does not match. Literal text in
front of a pattern must stand there, what may come in between on a line is as long as it can be, and
a search stops at the first place that has something to pick. These picks are functions on lists of
characters, so what a search finds in a text can be computed, and reasoned about with lists alone.
-/

namespace ReleaseGate

open Unicode

/-! ## Sets of characters -/

namespace Unicode.CharSet

theorem toNat_le_top (c : Char) : c.toNat ≤ top := by
  have hvalid : c.toNat.isValidChar := c.valid
  rcases hvalid with h | ⟨-, h⟩
  · exact Nat.le_trans (Nat.le_of_lt h) (by decide)
  · exact Nat.le_of_lt_succ h

theorem contains_single (a c : Char) : (single a).contains c = (c == a) := by
  rw [Bool.eq_iff_iff, beq_iff_eq, ← Char.toNat_inj]
  simp [contains, single, within]
  omega

theorem contains_complement_single (a c : Char) :
    (single a).complement.contains c = (c != a) := by
  have htop := toNat_le_top c
  rw [Bool.eq_iff_iff, bne_iff_ne, ne_eq, ← Char.toNat_inj]
  simp only [contains, complement, single, gaps]
  by_cases ha : 0 < a.toNat <;> by_cases hlast : a.toNat + 1 ≤ top <;>
    simp [ha, hlast, within] <;> omega

end Unicode.CharSet

namespace Digest

theorem isHexDigit_iff (c : Char) : isHexDigit c = true ↔
    0x61 ≤ c.toNat ∧ c.toNat ≤ 0x66 ∨ 0x30 ≤ c.toNat ∧ c.toNat ≤ 0x39 := by
  simp [isHexDigit, Char.le_def, UInt32.le_iff_toNat_le]

end Digest

namespace Pattern

/-! ## Picks -/

namespace Pick

variable {α : Type}

/-- What is picked behind a literal text. -/
def behind (cs : List Char) (f : List Char → Option α) (l : List Char) : Option α :=
  if cs <+: l then f (l.drop cs.length) else none

/-- The characters of a kind that come first, if there are any. -/
def run (kind : Char → Bool) (l : List Char) : Option (List Char) :=
  if l.takeWhile kind = [] then none else some (l.takeWhile kind)

/-- What is skipped does not end the line. -/
def Skips (l skipped rest : List Char) : Prop :=
  '\n' ∉ skipped ∧ l = skipped ++ rest

/-- What is picked at the last place on the line that has something to pick. -/
def lastOnLine (f : List Char → Option α) : List Char → Option α
  | [] => f []
  | c :: rest => if c = '\n' then f (c :: rest) else (lastOnLine f rest).or (f (c :: rest))

/-- What is picked at the first place of a text that has something to pick. -/
def first (f : List Char → Option α) : List Char → Option α
  | [] => f []
  | c :: rest => (f (c :: rest)).or (first f rest)

variable {f : List Char → Option α} {l : List Char} {x : α}

theorem behind_eq_some {cs : List Char} :
    behind cs f l = some x ↔ ∃ rest, l = cs ++ rest ∧ f rest = some x := by
  rw [behind]
  constructor
  · intro h
    by_cases hcs : cs <+: l
    · obtain ⟨rest, rfl⟩ := hcs
      rw [if_pos (List.prefix_append cs rest), List.drop_left] at h
      exact ⟨rest, rfl, h⟩
    · rw [if_neg hcs] at h
      cases h
  · rintro ⟨rest, rfl, h⟩
    rw [if_pos (List.prefix_append cs rest), List.drop_left, h]

theorem isSome_behind {cs : List Char} : (behind cs f l).isSome = true ↔
    ∃ rest, l = cs ++ rest ∧ (f rest).isSome = true := by
  simp only [Option.isSome_iff_exists, behind_eq_some]
  exact ⟨fun ⟨x, rest, hl, hx⟩ => ⟨rest, hl, x, hx⟩, fun ⟨rest, hl, x, hx⟩ => ⟨x, rest, hl, hx⟩⟩

/-- A run is taken as a whole: what comes next is of another kind. -/
theorem run_eq_some {kind : Char → Bool} {cs : List Char} :
    run kind l = some cs ↔ cs ≠ [] ∧ (∀ c ∈ cs, kind c = true)
      ∧ ∃ rest, l = cs ++ rest ∧ ∀ c ∈ rest.head?, kind c = false := by
  rw [run]
  constructor
  · intro h
    by_cases hnil : l.takeWhile kind = []
    · rw [if_pos hnil] at h
      cases h
    · rw [if_neg hnil] at h
      cases h
      refine ⟨hnil, fun c hc => List.mem_takeWhile_imp hc, l.dropWhile kind,
        List.takeWhile_append_dropWhile.symm, fun c hc => ?_⟩
      have hnot := List.head?_dropWhile_not kind l
      rw [Option.mem_def.mp hc] at hnot
      exact hnot
  · rintro ⟨hnil, hkind, rest, rfl, hrest⟩
    have htake : (cs ++ rest).takeWhile kind = cs := by
      rw [List.takeWhile_append_of_pos hkind]
      cases rest with
      | nil => simp
      | cons c rest => simp [hrest c rfl]
    rw [htake, if_neg hnil]

theorem Skips.nothing (l : List Char) : Skips l [] l :=
  ⟨List.not_mem_nil, rfl⟩

theorem Skips.cons {c : Char} {skipped rest : List Char} (hc : c ≠ '\n')
    (h : Skips l skipped rest) : Skips (c :: l) (c :: skipped) rest := by
  obtain ⟨hline, rfl⟩ := h
  exact ⟨by simp [hline, Ne.symm hc], rfl⟩

theorem skips_nil {skipped rest : List Char} :
    Skips [] skipped rest ↔ skipped = [] ∧ rest = [] := by
  rw [Skips, List.nil_eq, List.append_eq_nil_iff]
  refine and_iff_right_of_imp ?_
  rintro ⟨rfl, -⟩
  exact List.not_mem_nil

/-- What is skipped on a line is nothing, or its first character and more. -/
theorem skips_cons {c : Char} {skipped rest : List Char} : Skips (c :: l) skipped rest ↔
    (skipped = [] ∧ rest = c :: l)
      ∨ (c ≠ '\n' ∧ ∃ more, skipped = c :: more ∧ Skips l more rest) := by
  constructor
  · rintro ⟨hline, h⟩
    rcases List.cons_eq_append_iff.mp h with ⟨rfl, rfl⟩ | ⟨more, rfl, rfl⟩
    · exact .inl ⟨rfl, rfl⟩
    · rw [List.mem_cons, not_or] at hline
      exact .inr ⟨Ne.symm hline.1, more, rfl, hline.2, rfl⟩
  · rintro (⟨rfl, rfl⟩ | ⟨hc, more, rfl, hmore⟩)
    · exact .nothing _
    · exact hmore.cons hc

theorem lastOnLine_eq_none :
    lastOnLine f l = none ↔ ∀ skipped rest, Skips l skipped rest → f rest = none := by
  induction l with
  | nil => simp [lastOnLine, skips_nil]
  | cons c l ih =>
      rw [lastOnLine]
      by_cases hc : c = '\n'
      · simp [hc, skips_cons]
      · rw [if_neg hc, Option.or_eq_none_iff, ih]
        constructor
        · rintro ⟨hlater, hhere⟩ skipped rest hskips
          rcases skips_cons.mp hskips with ⟨-, rfl⟩ | ⟨-, more, -, hmore⟩
          · exact hhere
          · exact hlater more rest hmore
        · intro h
          exact ⟨fun more rest hmore => h _ rest (hmore.cons hc), h [] _ (.nothing _)⟩

theorem isSome_lastOnLine : (lastOnLine f l).isSome = true ↔
    ∃ skipped rest, Skips l skipped rest ∧ (f rest).isSome = true := by
  simp [Option.isSome_iff_ne_none, lastOnLine_eq_none]

theorem lastOnLine_eq_some : lastOnLine f l = some x ↔
    ∃ skipped rest, Skips l skipped rest ∧ f rest = some x
      ∧ ∀ skipped' rest', Skips l skipped' rest' → skipped.length < skipped'.length →
        f rest' = none := by
  induction l with
  | nil =>
      simp only [lastOnLine, skips_nil]
      constructor
      · intro h
        refine ⟨[], [], ⟨rfl, rfl⟩, h, ?_⟩
        rintro _ _ ⟨rfl, -⟩ hlong
        exact absurd hlong (Nat.lt_irrefl _)
      · rintro ⟨_, _, ⟨rfl, rfl⟩, h, -⟩
        exact h
  | cons c l ih =>
      rw [lastOnLine]
      by_cases hc : c = '\n'
      · rw [if_pos hc]
        simp [hc, skips_cons]
      · rw [if_neg hc, Option.or_eq_some_iff, ih, lastOnLine_eq_none]
        constructor
        · rintro (⟨more, rest, hmore, hx, hlast⟩ | ⟨hlater, hx⟩)
          · refine ⟨c :: more, rest, hmore.cons hc, hx, ?_⟩
            intro skipped' rest' hskips hlong
            rcases skips_cons.mp hskips with ⟨rfl, -⟩ | ⟨-, more', rfl, hmore'⟩
            · exact absurd hlong (Nat.not_lt_zero _)
            · exact hlast more' rest' hmore' (Nat.lt_of_succ_lt_succ hlong)
          · refine ⟨[], _, .nothing _, hx, ?_⟩
            intro skipped' rest' hskips hlong
            rcases skips_cons.mp hskips with ⟨rfl, -⟩ | ⟨-, more', -, hmore'⟩
            · exact absurd hlong (Nat.lt_irrefl _)
            · exact hlater more' rest' hmore'
        · rintro ⟨skipped, rest, hskips, hx, hlast⟩
          have hmore : ∀ more rest', Skips l more rest' → skipped.length < more.length + 1 →
              f rest' = none := fun more rest' h hlong => hlast _ rest' (h.cons hc) hlong
          rcases skips_cons.mp hskips with ⟨rfl, rfl⟩ | ⟨-, more, rfl, h⟩
          · exact .inr ⟨fun more rest' h => hmore more rest' h (Nat.zero_lt_succ _), hx⟩
          · exact .inl ⟨more, rest, h, hx, fun more' rest' h' hlong =>
              hmore more' rest' h' (Nat.succ_lt_succ hlong)⟩

theorem first_eq_none : first f l = none ↔ ∀ before rest, l = before ++ rest → f rest = none := by
  induction l with
  | nil => simp [first]
  | cons c l ih =>
      rw [first, Option.or_eq_none_iff, ih]
      constructor
      · rintro ⟨hhere, hrest⟩ before rest hl
        rcases List.cons_eq_append_iff.mp hl with ⟨-, rfl⟩ | ⟨before, -, hl⟩
        · exact hhere
        · exact hrest before rest hl
      · intro h
        exact ⟨h [] _ rfl, fun before rest hl => h (c :: before) rest (congrArg (c :: ·) hl)⟩

theorem isSome_first : (first f l).isSome = true ↔
    ∃ before rest, l = before ++ rest ∧ (f rest).isSome = true := by
  simp [Option.isSome_iff_ne_none, first_eq_none]

theorem first_eq_some : first f l = some x ↔
    ∃ before rest, l = before ++ rest ∧ f rest = some x
      ∧ ∀ before' rest', l = before' ++ rest' → before'.length < before.length →
        f rest' = none := by
  induction l with
  | nil => simp [first]
  | cons c l ih =>
      rw [first, Option.or_eq_some_iff, ih]
      constructor
      · rintro (hhere | ⟨hhere, before, rest, hl, hx, hfirst⟩)
        · exact ⟨[], _, rfl, hhere, fun _ _ _ hshort => absurd hshort (Nat.not_lt_zero _)⟩
        · refine ⟨c :: before, rest, congrArg (c :: ·) hl, hx, fun before' rest' hl' hshort => ?_⟩
          rcases List.cons_eq_append_iff.mp hl' with ⟨-, rfl⟩ | ⟨before', rfl, hl''⟩
          · exact hhere
          · exact hfirst before' rest' hl'' (Nat.lt_of_succ_lt_succ hshort)
      · rintro ⟨before, rest, hl, hx, hfirst⟩
        rcases List.cons_eq_append_iff.mp hl with ⟨-, rfl⟩ | ⟨before, rfl, hl'⟩
        · exact .inl hx
        · refine .inr ⟨hfirst [] _ rfl (Nat.zero_lt_succ _), before, rest, hl', hx, ?_⟩
          intro before' rest' hl' hshort
          exact hfirst (c :: before') rest' (congrArg (c :: ·) hl') (Nat.succ_lt_succ hshort)

/-- No place that has something to pick stands in front of the first. -/
theorem first_eq_some_iff_le : first f l = some x ↔
    ∃ before rest, l = before ++ rest ∧ f rest = some x
      ∧ ∀ before' rest', l = before' ++ rest' → (f rest').isSome = true →
        before.length ≤ before'.length := by
  rw [first_eq_some]
  refine exists_congr fun before => exists_congr fun rest => and_congr_right fun _ =>
    and_congr_right fun _ => forall_congr' fun before' => forall_congr' fun rest' =>
      imp_congr_right fun _ => ?_
  rw [← Option.not_isSome_iff_eq_none, not_imp_not.symm, not_not, Nat.not_lt]

end Pick

/-! ## Behind more characters -/

namespace Spot

/-- The spot behind so many more characters. -/
def beyond (s : Spot) : List Char → Spot
  | [] => s
  | c :: cs => (s.past c s.rest.tail).beyond cs

@[simp] theorem past_rest (s : Spot) (c : Char) (rest : List Char) : (s.past c rest).rest = rest :=
  rfl

@[simp] theorem past_position (s : Spot) (c : Char) (rest : List Char) :
    (s.past c rest).position = s.position + 1 :=
  rfl

@[simp] theorem beyond_nil (s : Spot) : s.beyond [] = s :=
  rfl

@[simp] theorem beyond_rest (s : Spot) (cs : List Char) :
    (s.beyond cs).rest = s.rest.drop cs.length := by
  induction cs generalizing s with
  | nil => rfl
  | cons c cs ih => rw [beyond, ih, past_rest, List.length_cons, List.drop_tail]

@[simp] theorem beyond_position (s : Spot) (cs : List Char) :
    (s.beyond cs).position = s.position + cs.length := by
  induction cs generalizing s with
  | nil => rfl
  | cons c cs ih =>
      rw [beyond, ih, past_position, List.length_cons]
      omega

@[simp] theorem beyond_opened (s : Spot) (cs : List Char) : (s.beyond cs).opened = s.opened := by
  induction cs generalizing s with
  | nil => rfl
  | cons c cs ih => exact ih _

theorem beyond_cons {s : Spot} {c : Char} {rest : List Char} (h : s.rest = c :: rest)
    (cs : List Char) : s.beyond (c :: cs) = (s.past c rest).beyond cs := by
  rw [beyond, h, List.tail_cons]

theorem beyond_append (s : Spot) (cs ds : List Char) :
    s.beyond (cs ++ ds) = (s.beyond cs).beyond ds := by
  induction cs generalizing s with
  | nil => rfl
  | cons c cs ih => exact ih _

/-- The spot is one of the places of a text. -/
def In (s : Spot) (text : List Char) : Prop :=
  s.rest = text.drop s.position

theorem in_within (text : List Char) (i : Nat) : (within text i).In text :=
  rfl

theorem In.past {s : Spot} {text : List Char} (h : s.In text) {c : Char} {rest : List Char}
    (hrest : s.rest = c :: rest) : (s.past c rest).In text := by
  rw [In, past_rest, past_position, ← List.drop_drop, ← h, hrest, List.drop_one, List.tail_cons]

theorem In.beyond {s : Spot} {text : List Char} (h : s.In text) (cs : List Char) :
    (s.beyond cs).In text := by
  rw [In, beyond_rest, beyond_position, h, List.drop_drop]

end Spot

/-! ## Literal text and runs -/

namespace Core

/-- Some text, and then a pattern. -/
def literal : List Char → Core → Core
  | [], c => c
  | first :: rest, c => .seq (.set (CharSet.single first)) (literal rest c)

/-- As many characters of a set as there are, and at least one. -/
def someRun (set : CharSet) : Core :=
  .rep 1 none true (.set set)

/-- Whatever is left of the line, as far as need be, and then a pattern. -/
def onLine (c : Core) : Core :=
  .seq (.rep 0 none true (.set (CharSet.single '\n').complement)) c

/-- The preferred end lies behind the characters that a function says. -/
def Takes (c : Core) (f : List Char → Option (List Char)) : Prop :=
  ∀ s, (c.ends s).head? = (f s.rest).map s.beyond

end Core

theorem taking_eq (set : CharSet) {s : Spot} {c : Char} {rest : List Char}
    (h : s.rest = c :: rest) :
    Spot.taking set s = if set.contains c then [s.past c rest] else [] := by
  rw [Spot.taking, h]

theorem taking_eq_nil (set : CharSet) {s : Spot} (h : s.rest = []) : Spot.taking set s = [] := by
  rw [Spot.taking, h]

theorem ends_literal (cs : List Char) (c : Core) (s : Spot) :
    (Core.literal cs c).ends s = if cs <+: s.rest then c.ends (s.beyond cs) else [] := by
  induction cs generalizing s with
  | nil => rw [if_pos List.nil_prefix]; rfl
  | cons first cs ih =>
      show (Spot.taking (CharSet.single first) s).flatMap (Core.literal cs c).ends = _
      cases hrest : s.rest with
      | nil => simp [taking_eq_nil _ hrest]
      | cons next rest =>
          rw [taking_eq _ hrest, CharSet.contains_single]
          by_cases hfirst : next = first
          · subst hfirst
            rw [beq_self_eq_true, if_pos rfl, List.flatMap_singleton, ih, ← Spot.beyond_cons hrest]
            exact if_congr (List.prefix_cons_inj next).symm rfl rfl
          · have hne : ¬ first :: cs <+: next :: rest := fun h =>
              hfirst (List.cons_prefix_cons.mp h).1.symm
            simp [hfirst, hne]

/-- A greedy repetition prefers the whole of a run. -/
theorem head?_roundsUpTo (set : CharSet) (n : Nat) (s : Spot) (h : s.rest.length ≤ n) :
    (roundsUpTo true (Spot.taking set) n s).head?
      = some (s.beyond (s.rest.takeWhile set.contains)) := by
  induction n generalizing s with
  | zero =>
      rw [List.eq_nil_of_length_eq_zero (Nat.le_zero.mp h)]
      rfl
  | succ n ih =>
      rw [roundsUpTo, inOrder, if_pos rfl]
      cases hrest : s.rest with
      | nil => simp [taking_eq_nil set hrest]
      | cons c rest =>
          rw [taking_eq set hrest]
          by_cases hc : set.contains c = true
          · have hle : rest.length ≤ n := by
              rw [hrest, List.length_cons] at h
              omega
            simp [hc, ih (s.past c rest) hle, Spot.beyond_cons hrest]
          · simp [hc]

namespace Core.Takes

variable {c : Core} {f : List Char → Option (List Char)}

theorem someRun (set : CharSet) : (someRun set).Takes (Pick.run set.contains) := by
  intro s
  have hends : (Core.someRun set).ends s
      = (Spot.taking set s).flatMap fun t => roundsUpTo true (Spot.taking set) t.rest.length t := by
    show ((Spot.taking set s).flatMap fun t => [t]).flatMap _ = _
    rw [List.flatMap_singleton']
    rfl
  rw [hends, Pick.run]
  cases hrest : s.rest with
  | nil => simp [taking_eq_nil set hrest]
  | cons c rest =>
      rw [taking_eq set hrest]
      by_cases hc : set.contains c = true
      · have hrun := head?_roundsUpTo set rest.length (s.past c rest) (Nat.le_refl _)
        simp [hc, hrun, Spot.beyond_cons hrest]
      · simp [hc]

theorem literal (h : c.Takes f) (cs : List Char) :
    (literal cs c).Takes fun l => (Pick.behind cs f l).map (cs ++ ·) := by
  intro s
  rw [ends_literal]
  dsimp only [Pick.behind]
  by_cases hcs : cs <+: s.rest
  · rw [if_pos hcs, if_pos hcs, h, Spot.beyond_rest, Option.map_map]
    exact congrArg (Option.map · _) (funext fun ds => (s.beyond_append cs ds).symm)
  · rw [if_neg hcs, if_neg hcs]
    rfl

end Core.Takes

/-! ## What the first group takes -/

/-- What the first group has taken of a text. -/
def Spot.group (text : List Char) (s : Spot) : Option String :=
  s.taken.map fun taken => between text taken.1 taken.2

/-- A pattern matches where a function has a value, and then its first group takes that value. -/
def Core.Picks (c : Core) (f : List Char → Option String) : Prop :=
  ∀ text s, s.In text → (c.ends s).head?.map (Spot.group text) = (f s.rest).map some

namespace Core.Picks

variable {c : Core} {f : List Char → Option String}

/-- The first group picks out what its body takes. -/
theorem group {g : List Char → Option (List Char)} (h : c.Takes g)
    (htaken : ∀ l, ∀ cs ∈ g l, cs <+: l) :
    (group 1 c).Picks fun l => (g l).map String.ofList := by
  intro text s hs
  have hends : ((Core.group 1 c).ends s).head?
      = ((g s.rest).map s.begun.beyond).map Spot.ended := by
    rw [Core.ends, if_pos rfl, List.head?_map, h]
    rfl
  rw [hends, Option.map_map, Option.map_map, Option.map_map]
  cases hg : g s.rest with
  | none => rfl
  | some cs =>
      have htake : s.rest.take cs.length = cs :=
        (List.prefix_iff_eq_take.mp (htaken _ _ hg)).symm
      have hdrop : text.drop s.position = s.rest := hs.symm
      simp [Spot.group, Spot.ended, Spot.begun, between, hdrop, htake]

theorem literal (h : c.Picks f) (cs : List Char) :
    (literal cs c).Picks (Pick.behind cs f) := by
  intro text s hs
  rw [ends_literal, Pick.behind]
  by_cases hcs : cs <+: s.rest
  · rw [if_pos hcs, if_pos hcs, h text _ (hs.beyond cs), Spot.beyond_rest]
  · rw [if_neg hcs, if_neg hcs]
    rfl

/-- The longest of what may be skipped is preferred, and with it the last place on the line. -/
theorem head?_skip (h : c.Picks f) {text : List Char} (n : Nat) (s : Spot) (hs : s.In text)
    (hn : s.rest.length ≤ n) :
    (((roundsUpTo true (Spot.taking (CharSet.single '\n').complement) n s).flatMap
      c.ends).head?).map (Spot.group text) = (Pick.lastOnLine f s.rest).map some := by
  induction n generalizing s with
  | zero =>
      have hnil : s.rest = [] := List.eq_nil_of_length_eq_zero (Nat.le_zero.mp hn)
      rw [roundsUpTo, List.flatMap_singleton, h text s hs, hnil]
      rfl
  | succ n ih =>
      rw [roundsUpTo, inOrder, if_pos rfl, List.flatMap_append, List.flatMap_singleton,
        List.head?_append, Option.map_or, h text s hs]
      cases hrest : s.rest with
      | nil =>
          rw [taking_eq_nil _ hrest]
          rfl
      | cons next rest =>
          rw [taking_eq _ hrest, CharSet.contains_complement_single, Pick.lastOnLine]
          by_cases hnext : next = '\n'
          · simp [hnext]
          · have hle : rest.length ≤ n := by
              rw [hrest, List.length_cons] at hn
              omega
            have hpast := ih (s.past next rest) (hs.past hrest) hle
            rw [if_pos (bne_iff_ne.mpr hnext), if_neg hnext, List.flatMap_singleton, hpast,
              Spot.past_rest, Option.map_or]

theorem onLine (h : c.Picks f) : (onLine c).Picks (Pick.lastOnLine f) := by
  intro text s hs
  rw [← h.head?_skip s.rest.length s hs (Nat.le_refl _)]
  show ((([s].flatMap _).flatMap c.ends).head?).map _ = _
  rw [List.flatMap_singleton]
  rfl

/-- At a place of a text, a pattern has an end just when there is something to pick. -/
theorem ends_within (h : c.Picks f) (text : List Char) (i : Nat) :
    (c.ends (Spot.within text i)).head?.map (Spot.group text) = (f (text.drop i)).map some :=
  h text _ (Spot.in_within text i)

theorem eq_none_of_ends (h : c.Picks f) {text : List Char} {i : Nat}
    (hends : c.ends (Spot.within text i) = []) : f (text.drop i) = none := by
  have hwithin := h.ends_within text i
  rw [hends] at hwithin
  exact Option.map_eq_none_iff.mp hwithin.symm

/-- A search picks at the first place that has something to pick. -/
theorem finds (h : c.Picks f) {text : String} {r : Option String} (hr : c.Finds text r) :
    r = Pick.first f text.toList := by
  -- a place of the text is known by what is in front of it
  have hplace : ∀ {before rest : List Char}, text.toList = before ++ rest →
      before.length ≤ text.toList.length ∧ text.toList.drop before.length = rest := by
    intro before rest htext
    rw [htext, List.length_append, List.drop_left]
    exact ⟨Nat.le_add_right _ _, rfl⟩
  cases hr with
  | @first i t hi ht hbefore =>
      have hwithin := h.ends_within text.toList i
      rw [ht] at hwithin
      obtain ⟨d, hd, hgroup⟩ := Option.map_eq_some_iff.mp hwithin.symm
      refine Eq.trans hgroup.symm (Eq.symm (Pick.first_eq_some.mpr ?_))
      refine ⟨_, _, (List.take_append_drop i text.toList).symm, hd, fun before rest htext hlt => ?_⟩
      rw [List.length_take_of_le hi] at hlt
      rw [← (hplace htext).2]
      exact h.eq_none_of_ends (hbefore _ hlt)
  | nowhere hnone =>
      refine (Pick.first_eq_none.mpr fun before rest htext => ?_).symm
      rw [← (hplace htext).2]
      exact h.eq_none_of_ends (hnone _ (hplace htext).1)

end Core.Picks

end Pattern

end ReleaseGate
