import Mathlib.Logic.Relation
import ReleaseGate.Pattern

/-!
# What a core pattern spans

A core pattern relates the spots of a text at which it begins to those at which it may end, part by
part and without a program: a sequence composes what its parts relate, an alternation joins it, and
a repetition composes what its body relates as many times as it allows. A spot also says what the
first group has taken so far, which is what a pattern is applied for.
-/

namespace ReleaseGate.Pattern

open Relation Unicode

/-- A place in a text, with what the first group has noted and taken. -/
structure Spot where
  before : Option Char
  position : Nat
  rest : List Char
  opened : Nat
  taken : Option (Nat × Nat)

namespace Spot

/-- The place behind so many characters of a text. -/
def within (text : List Char) (i : Nat) : Spot :=
  ⟨(text.take i).getLast?, i, text.drop i, 0, none⟩

/-- The characters on both sides. -/
def neighbours (s : Spot) : Neighbours :=
  ⟨s.before, s.rest.head?⟩

/-- From a spot to the one behind its next character, which is in a set. -/
def Takes (set : CharSet) (s t : Spot) : Prop :=
  ∃ c rest, s.rest = c :: rest ∧ set.contains c = true
    ∧ t = { s with before := some c, position := s.position + 1, rest := rest }

/-- A spot where a condition holds. -/
def Holds (condition : Look) (s t : Spot) : Prop :=
  condition.holds s.neighbours = true ∧ t = s

/-- The first group begins here. -/
def begun (s : Spot) : Spot :=
  { s with opened := s.position }

/-- The first group ends here. -/
def ended (s : Spot) : Spot :=
  { s with taken := some (s.opened, s.position) }

end Spot

/-- So many steps of a relation. -/
def Times (R : Spot → Spot → Prop) : Nat → Spot → Spot → Prop
  | 0 => Eq
  | n + 1 => Comp R (Times R n)

/-- Some number of steps of a relation, out of those that are allowed. -/
def Repeats (allowed : Nat → Prop) (R : Spot → Spot → Prop) (s t : Spot) : Prop :=
  ∃ n, allowed n ∧ Times R n s t

/-- From where a pattern may begin to where it may end. -/
def Core.Spans : Core → Spot → Spot → Prop
  | empty => Eq
  | set s => Spot.Takes s
  | look condition => Spot.Holds condition
  | seq a b => Comp a.Spans b.Spans
  | alt a b => fun s t => a.Spans s t ∨ b.Spans s t
  | rep least most _ body =>
    Repeats (fun n => least ≤ n ∧ ∀ m ∈ most, n ≤ max least m) body.Spans
  | group index body =>
    if index = 1 then fun s t => ∃ u, body.Spans s.begun u ∧ t = u.ended else body.Spans

namespace Core

/-- A match that begins behind so many characters of a text. -/
def Matches (c : Core) (text : List Char) (i : Nat) (t : Spot) : Prop :=
  i ≤ text.length ∧ c.Spans (Spot.within text i) t

/-- What the first group takes in a match before which none begins; nothing when there is none. -/
inductive Captures (c : Core) (text : String) : Option String → Prop where
  | leftmost {i : Nat} {t : Spot} :
      c.Matches text.toList i t → (∀ j < i, ∀ t', ¬ c.Matches text.toList j t') →
      Captures c text (t.taken.map fun taken => between text.toList taken.1 taken.2)
  | nowhere : (∀ i t, ¬ c.Matches text.toList i t) → Captures c text none

end Core

/-! ## Steps of a relation, counted -/

variable {R : Spot → Spot → Prop} {allowed : Nat → Prop}

theorem times_one : Times R 1 = R := by
  rw [Times, Times, comp_eq]

theorem times_add (m n : Nat) : Times R (m + n) = Comp (Times R m) (Times R n) := by
  induction m with
  | zero => rw [Nat.zero_add, Times, eq_comp]
  | succ m ih => rw [Nat.succ_add, Times, Times, ih, comp_assoc]

theorem repeats_congr {allowed' : Nat → Prop} (h : ∀ n, allowed n ↔ allowed' n) :
    Repeats allowed R = Repeats allowed' R := by
  rw [funext fun n => propext (h n)]

theorem times_comp_repeats (m : Nat) :
    Comp (Times R m) (Repeats allowed R) = Repeats (fun n => ∃ k, allowed k ∧ n = m + k) R := by
  funext s u
  refine propext ⟨?_, ?_⟩
  · rintro ⟨t, hst, k, hk, htu⟩
    refine ⟨m + k, ⟨k, hk, rfl⟩, ?_⟩
    rw [times_add]
    exact ⟨t, hst, htu⟩
  · rintro ⟨n, ⟨k, hk, rfl⟩, h⟩
    rw [times_add] at h
    obtain ⟨t, hst, htu⟩ := h
    exact ⟨t, hst, k, hk, htu⟩

theorem comp_repeats :
    Comp R (Repeats allowed R) = Repeats (fun n => ∃ k, allowed k ∧ n = 1 + k) R := by
  have h := @times_comp_repeats R allowed 1
  rw [times_one] at h
  exact h

theorem repeats_or_eq :
    (fun s t => Repeats allowed R s t ∨ s = t) = Repeats (fun n => allowed n ∨ n = 0) R := by
  funext s t
  refine propext ⟨?_, ?_⟩
  · rintro (⟨n, hn, h⟩ | heq)
    · exact ⟨n, .inl hn, h⟩
    · exact ⟨0, .inr rfl, heq⟩
  · rintro ⟨n, hn | rfl, h⟩
    · exact .inl ⟨n, hn, h⟩
    · exact .inr h

theorem repeats_pos : Repeats (1 ≤ ·) R = Comp R (Repeats (0 ≤ ·) R) := by
  rw [comp_repeats]
  refine repeats_congr fun n => ⟨fun h => ⟨n - 1, by omega, by omega⟩, ?_⟩
  rintro ⟨k, -, rfl⟩
  omega

theorem repeats_le_zero : Repeats (· ≤ 0) R = Eq := by
  funext s t
  refine propext ⟨?_, fun h => ⟨0, Nat.le_refl 0, h⟩⟩
  rintro ⟨n, hn, h⟩
  rw [Nat.le_zero.mp hn] at h
  exact h

theorem repeats_le_succ (n : Nat) :
    Repeats (· ≤ n + 1) R = fun s t => Comp R (Repeats (· ≤ n) R) s t ∨ s = t := by
  rw [comp_repeats, repeats_or_eq]
  refine repeats_congr fun m => ⟨fun h => ?_, ?_⟩
  · cases m with
    | zero => exact .inr rfl
    | succ m => exact .inl ⟨m, by omega, by omega⟩
  · rintro (⟨k, hk, rfl⟩ | rfl)
    · omega
    · omega

end ReleaseGate.Pattern
