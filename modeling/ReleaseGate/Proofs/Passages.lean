import ReleaseGate.Proofs.Paths
import ReleaseGate.Proofs.Spans

/-!
# Passing through a part of a program

A part of a program is entered at one address and left at another, and between the two it relates
spots. A path through it goes on from where it is left, with no more instructions than before, so a
path through a loop can be followed by its length: a loop may be gone through without taking a
character, but each time takes the choice at least.
-/

namespace ReleaseGate.Pattern

open Relation Unicode

/-- What an instruction does at a spot: where it goes on, and with which spot. -/
inductive Instruction.Does : Instruction → Spot → Nat → Spot → Prop where
  | take {set : CharSet} {next : Nat} {s t : Spot} :
      s.Takes set t → Does (.take set next) s next t
  | check {condition : Look} {next : Nat} {s t : Spot} :
      s.Holds condition t → Does (.check condition next) s next t
  | first {first second : Nat} {s : Spot} : Does (.branch first second) s first s
  | second {first second : Nat} {s : Spot} : Does (.branch first second) s second s
  | opening {next : Nat} {s : Spot} : Does (.opening next) s next s.begun
  | closing {next : Nat} {s : Spot} : Does (.closing next) s next s.ended

/-- The way at an address with what a spot has noted. -/
def Spot.way (s : Spot) (a : Nat) : Way :=
  ⟨a, s.opened, s.taken⟩

/-- A path of so many instructions from an address and a spot to an accepting way. -/
inductive PathIn (p : Program) : Nat → Nat → Spot → Way → Prop where
  | accept {a : Nat} {s : Spot} : p[a]? = some .accept → PathIn p 0 a s (s.way a)
  | go {n a b : Nat} {s t : Spot} {r : Way} {i : Instruction} :
      p[a]? = some i → i.Does s b t → PathIn p n b t r → PathIn p (n + 1) a s r

variable {p q : Program}

/-- What a way goes on with is what its instruction does. -/
theorem does_of_mem_branches {before : Option Char} {position : Nat} {text : List Char}
    {w v : Way} {i : Instruction} (h : v ∈ w.branches ⟨before, text.head?⟩ position i) :
    i.Does ⟨before, position, text, w.opened, w.taken⟩ v.address
      ⟨before, position, text, v.opened, v.taken⟩ := by
  cases i with
  | take set next => cases h
  | accept => cases h
  | check condition next =>
      rw [Way.branches] at h
      by_cases hholds : condition.holds ⟨before, text.head?⟩ = true
      · rw [if_pos hholds, List.mem_singleton] at h
        rw [h]
        exact .check ⟨hholds, rfl⟩
      · rw [if_neg hholds] at h
        cases h
  | branch first second =>
      rcases List.mem_cons.mp h with rfl | h
      · exact .first
      · rw [List.mem_singleton.mp h]
        exact .second
  | opening next =>
      rw [List.mem_singleton.mp h]
      exact .opening
  | closing next =>
      rw [List.mem_singleton.mp h]
      exact .closing

theorem Path.exists_pathIn {before : Option Char} {position : Nat} {text : List Char} {w r : Way}
    (h : Path p before position text w r) :
    ∃ n, PathIn p n w.address ⟨before, position, text, w.opened, w.taken⟩ r := by
  induction h with
  | accept hi => exact ⟨0, .accept hi⟩
  | take hi hc _ ih =>
      obtain ⟨n, hn⟩ := ih
      exact ⟨n + 1, .go hi (.take ⟨_, _, rfl, hc, rfl⟩) hn⟩
  | go hi hv _ ih =>
      obtain ⟨n, hn⟩ := ih
      exact ⟨n + 1, .go hi (does_of_mem_branches hv) hn⟩

theorem PathIn.path {n a : Nat} {s : Spot} {r : Way} (h : PathIn p n a s r) :
    Path p s.before s.position s.rest (s.way a) r := by
  induction h with
  | accept hi => exact .accept hi
  | @go n a b s t r i hi hdoes _ ih =>
      cases hdoes with
      | take htakes =>
          obtain ⟨c, rest, hrest, hc, rfl⟩ := htakes
          rw [hrest]
          exact .take hi hc ih
      | check hholds =>
          obtain ⟨hholds, rfl⟩ := hholds
          refine .go hi ?_ ih
          rw [Way.branches]
          refine (if_pos hholds).symm ▸ List.mem_singleton_self _
      | first => exact .go hi (List.mem_cons_self ..) ih
      | second => exact .go hi (List.mem_cons_of_mem _ (List.mem_singleton_self _)) ih
      | opening => exact .go hi (List.mem_singleton_self _) ih
      | closing => exact .go hi (List.mem_singleton_self _) ih

/-! ## Parts of a program -/

/-- The part of a program from one address to another is passed as a relation says. -/
structure Carries (p : Program) (R : Spot → Spot → Prop) (entry next : Nat) : Prop where
  sound : ∀ {n : Nat} {s t : Spot} {r : Way}, R s t → PathIn p n next t r →
    ∃ m, PathIn p m entry s r
  complete : ∀ {n : Nat} {s : Spot} {r : Way}, PathIn p n entry s r →
    ∃ t, R s t ∧ ∃ m ≤ n, PathIn p m next t r

namespace Carries

variable {R S : Spot → Spot → Prop} {entry middle next : Nat}

theorem refl : Carries p Eq next next where
  sound := by
    rintro n s t r rfl h
    exact ⟨n, h⟩
  complete := fun h => ⟨_, rfl, _, Nat.le_refl _, h⟩

theorem comp (hR : Carries p R entry middle) (hS : Carries p S middle next) :
    Carries p (Comp R S) entry next where
  sound := by
    rintro n s t r ⟨u, hsu, hut⟩ h
    obtain ⟨m, hm⟩ := hS.sound hut h
    exact hR.sound hsu hm
  complete := by
    intro n s r h
    obtain ⟨u, hsu, m, hmn, hm⟩ := hR.complete h
    obtain ⟨t, hut, l, hlm, hl⟩ := hS.complete hm
    exact ⟨t, ⟨u, hsu, hut⟩, l, Nat.le_trans hlm hmn, hl⟩

/-- An instruction that only goes on to `next`. -/
theorem of_instruction {i : Instruction} (hi : p[entry]? = some i) (haccept : i ≠ .accept)
    (hdoes : ∀ {s t : Spot} {a : Nat}, i.Does s a t ↔ a = next ∧ R s t) :
    Carries p R entry next where
  sound := fun hR h => ⟨_, .go hi (hdoes.mpr ⟨rfl, hR⟩) h⟩
  complete := by
    intro n s r h
    cases h with
    | accept hi' => exact absurd (Option.some.inj (hi.symm.trans hi')) haccept
    | @go n a b s t r i' hi' hdoes' h =>
        rw [← Option.some.inj (hi.symm.trans hi')] at hdoes'
        obtain ⟨rfl, hR⟩ := hdoes.mp hdoes'
        exact ⟨t, hR, n, Nat.le_succ n, h⟩

/-- A choice leads where one of its two ways on does. -/
theorem pathIn_choice {greedy : Bool} {a into past : Nat}
    (ha : p[a]? = some (Program.choice greedy into past)) {n : Nat} {s : Spot} {r : Way} :
    PathIn p n a s r ↔ ∃ m, n = m + 1 ∧ (PathIn p m into s r ∨ PathIn p m past s r) := by
  constructor
  · intro h
    cases h with
    | accept hi =>
        cases greedy with
        | true => cases ha.symm.trans hi
        | false => cases ha.symm.trans hi
    | @go n a b s t r i hi hdoes h =>
        refine ⟨n, rfl, ?_⟩
        cases greedy with
        | true =>
            cases ha.symm.trans hi
            cases hdoes with
            | first => exact .inl h
            | second => exact .inr h
        | false =>
            cases ha.symm.trans hi
            cases hdoes with
            | first => exact .inr h
            | second => exact .inl h
  · rintro ⟨m, rfl, h | h⟩
    · cases greedy with
      | true => exact .go ha .first h
      | false => exact .go ha .second h
    · cases greedy with
      | true => exact .go ha .second h
      | false => exact .go ha .first h

theorem choice {greedy : Bool} {into past : Nat}
    (ha : p[entry]? = some (Program.choice greedy into past))
    (hR : Carries p R into next) (hS : Carries p S past next) :
    Carries p (fun s t => R s t ∨ S s t) entry next where
  sound := by
    rintro n s t r (hst | hst) h
    · obtain ⟨m, hm⟩ := hR.sound hst h
      exact ⟨m + 1, (pathIn_choice ha).mpr ⟨m, rfl, .inl hm⟩⟩
    · obtain ⟨m, hm⟩ := hS.sound hst h
      exact ⟨m + 1, (pathIn_choice ha).mpr ⟨m, rfl, .inr hm⟩⟩
  complete := by
    intro n s r h
    obtain ⟨m, rfl, h | h⟩ := (pathIn_choice ha).mp h
    · obtain ⟨t, hst, l, hlm, hl⟩ := hR.complete h
      exact ⟨t, .inl hst, l, Nat.le_succ_of_le hlm, hl⟩
    · obtain ⟨t, hst, l, hlm, hl⟩ := hS.complete h
      exact ⟨t, .inr hst, l, Nat.le_succ_of_le hlm, hl⟩

/-- A loop is gone through any number of times. -/
theorem loop {greedy : Bool} {again : Nat}
    (ha : p[again]? = some (Program.choice greedy entry next)) (hR : Carries p R entry again) :
    Carries p (Repeats (0 ≤ ·) R) again next where
  sound := by
    rintro n s t r ⟨k, -, hst⟩ h
    induction k generalizing s with
    | zero =>
        obtain rfl : s = t := hst
        exact ⟨n + 1, (pathIn_choice ha).mpr ⟨n, rfl, .inr h⟩⟩
    | succ k ih =>
        obtain ⟨u, hsu, hut⟩ := hst
        obtain ⟨m, hm⟩ := ih hut
        obtain ⟨l, hl⟩ := hR.sound hsu hm
        exact ⟨l + 1, (pathIn_choice ha).mpr ⟨l, rfl, .inl hl⟩⟩
  complete := by
    intro n
    induction n using Nat.strong_induction_on with
    | _ n ih =>
        intro s r h
        obtain ⟨m, rfl, h | h⟩ := (pathIn_choice ha).mp h
        · -- the path comes back, and what is left of it is shorter by the choice at least
          obtain ⟨u, hsu, l, hlm, hl⟩ := hR.complete h
          obtain ⟨t, ⟨k, -, hut⟩, j, hjl, hj⟩ := ih l (Nat.lt_succ_of_le hlm) hl
          exact ⟨t, ⟨k + 1, Nat.zero_le _, u, hsu, hut⟩, j, by omega, hj⟩
        · exact ⟨s, ⟨0, Nat.le_refl 0, rfl⟩, m, Nat.le_succ m, h⟩

end Carries

end ReleaseGate.Pattern
