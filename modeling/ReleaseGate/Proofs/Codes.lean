import ReleaseGate.Proofs.Leftmost
import ReleaseGate.Proofs.Passages

/-!
# The code of a pattern does what the pattern spans

The code of a part is passed as the part spans, in every program that holds it. What is built later
is put behind it and changes nothing in it, so each way of putting patterns together needs only what
holds of their codes; a loop alone goes back to an instruction, which it has reserved.
-/

namespace ReleaseGate.Pattern

open Relation

/-! ## What is built -/

section

variable {α β γ : Type} {Q Q' : Program → α → Prop}

/-- A step adds to a program and keeps what was there. What it answers is right for every program
with the instructions that it has added, whatever else that holds. -/
structure Builds (step : Program → α × Program) (Q : Program → α → Prop) : Prop where
  size_le : ∀ p, p.size ≤ (step p).2.size
  kept : ∀ p a, a < p.size → (step p).2[a]? = p[a]?
  right : ∀ p q, (∀ a, p.size ≤ a → a < (step p).2.size → q[a]? = (step p).2[a]?) →
    Q q (step p).1

namespace Builds

theorem imp {step : Program → α × Program} (h : Builds step Q) (himp : ∀ q x, Q q x → Q' q x) :
    Builds step Q' :=
  ⟨h.size_le, h.kept, fun p q hq => himp q _ (h.right p q hq)⟩

theorem skip (x : α) (h : ∀ q, Q q x) : Builds (fun p => (x, p)) Q :=
  ⟨fun _ => Nat.le_refl _, fun _ _ _ => rfl, fun _ q _ => h q⟩

theorem add (i : Instruction) : Builds (fun p => p.add i) fun q a => q[a]? = some i where
  size_le p := by
    rw [Program.add, Array.size_push]
    exact Nat.le_succ _
  kept p a ha := by
    rw [Program.add, Array.getElem?_push_lt ha, ← Array.getElem?_eq_getElem ha]
  right p q hq := by
    have hsize : p.size < (p.add i).2.size := by
      rw [Program.add, Array.size_push]
      exact Nat.lt_succ_self _
    exact (hq p.size (Nat.le_refl _) hsize).trans Array.getElem?_push_size

/-- A step behind a step. -/
theorem bind {g : Program → α × Program} {f : α → Program → β × Program}
    {P : α → Program → β → Prop} (hg : Builds g Q) (hf : ∀ x, Builds (f x) (P x)) :
    Builds (fun p => f (g p).1 (g p).2) fun q y => ∃ x, Q q x ∧ P x q y where
  size_le p := Nat.le_trans (hg.size_le p) ((hf _).size_le _)
  kept p a ha := by
    rw [(hf _).kept _ a (Nat.lt_of_lt_of_le ha (hg.size_le p)), hg.kept p a ha]
  right p q hq := by
    refine ⟨_, hg.right p q fun a hle hlt => ?_, (hf _).right _ q fun a hle hlt => ?_⟩
    · rw [hq a hle (Nat.lt_of_lt_of_le hlt ((hf _).size_le _)), (hf _).kept _ a hlt]
    · exact hq a (Nat.le_trans (hg.size_le p) hle) hlt

/-- A step around an instruction that is filled in when the step is done. -/
theorem reserve {body : Nat → Program → α × Program} {P : Nat → Program → α → Prop}
    (hbody : ∀ a, Builds (body a) (P a)) (blank : Instruction) (i : α → Instruction)
    (out : Nat → α → β) :
    Builds (fun p => (out p.size (body p.size (p.push blank)).1,
        (body p.size (p.push blank)).2.setIfInBounds p.size (i (body p.size (p.push blank)).1)))
      fun q y => ∃ a x, y = out a x ∧ P a q x ∧ q[a]? = some (i x) where
  size_le p := by
    have hle := (hbody p.size).size_le (p.push blank)
    rw [Array.size_push] at hle
    rw [Array.size_setIfInBounds]
    exact Nat.le_of_succ_le hle
  kept p a ha := by
    rw [Array.getElem?_setIfInBounds_ne (Nat.ne_of_gt ha), (hbody p.size).kept _ a,
      Array.getElem?_push_lt ha, ← Array.getElem?_eq_getElem ha]
    rw [Array.size_push]
    exact Nat.lt_succ_of_lt ha
  right p q hq := by
    have hle := (hbody p.size).size_le (p.push blank)
    rw [Array.size_push] at hle
    rw [Array.size_setIfInBounds] at hq
    -- the body lies behind the reserved instruction, so filling that in leaves it alone
    refine ⟨p.size, _, rfl, (hbody p.size).right _ q fun a hsize hlt => ?_, ?_⟩
    · rw [Array.size_push] at hsize
      rw [hq a (Nat.le_of_succ_le hsize) hlt, Array.getElem?_setIfInBounds_ne (Nat.ne_of_lt hsize)]
    · rw [hq p.size (Nat.le_refl _) hle, Array.getElem?_setIfInBounds_self_of_lt hle]

end Builds

end

/-! ## Code -/

/-- Code in front of any address is passed as a relation says. -/
def Codes (step : Nat → Program → Nat × Program) (R : Spot → Spot → Prop) : Prop :=
  ∀ next, Builds (step next) fun q entry => Carries q R entry next

namespace Codes

variable {R S : Spot → Spot → Prop} {f g : Nat → Program → Nat × Program}

theorem skip : Codes (fun next p => (next, p)) Eq :=
  fun next => .skip next fun _ => .refl

theorem congr (hf : Codes f R) (h : ∀ s t, R s t ↔ S s t) : Codes f S :=
  (funext fun s => funext fun t => propext (h s t) : R = S) ▸ hf

theorem of_eq (hg : Codes g R) (h : ∀ next p, f next p = g next p) : Codes f R :=
  (funext fun next => funext fun p => h next p : f = g) ▸ hg

/-- Code in front of code. -/
theorem comp (hf : Codes f R) (hg : Codes g S) :
    Codes (fun next p => f (g next p).1 (g next p).2) (Comp R S) := by
  intro next
  refine ((hg next).bind hf).imp fun q entry h => ?_
  obtain ⟨middle, hS, hR⟩ := h
  exact hR.comp hS

/-- One instruction that only goes on. -/
theorem of_instruction {i : Nat → Instruction} (haccept : ∀ next, i next ≠ .accept)
    (hdoes : ∀ {next a : Nat} {s t : Spot}, (i next).Does s a t ↔ a = next ∧ R s t) :
    Codes (fun next p => p.add (i next)) R :=
  fun next => (Builds.add (i next)).imp fun _ _ hi => .of_instruction hi (haccept next) hdoes

/-- Code that may be passed by. -/
theorem pass (hf : Codes f R) (greedy : Bool) :
    Codes (fun next p => (f next p).2.add (Program.choice greedy (f next p).1 next))
      fun s t => R s t ∨ s = t := by
  intro next
  refine ((hf next).bind fun entry => Builds.add (Program.choice greedy entry next)).imp ?_
  rintro q a ⟨entry, hR, ha⟩
  exact .choice ha hR .refl

/-- Two codes side by side. -/
theorem alt (hf : Codes f R) (hg : Codes g S) :
    Codes (fun next p => (f next (g next p).2).2.add
        (.branch (f next (g next p).2).1 (g next p).1))
      fun s t => R s t ∨ S s t := by
  intro next
  refine ((hg next).bind fun second =>
    (hf next).bind fun first => Builds.add (.branch first second)).imp ?_
  rintro q a ⟨second, hS, first, hR, ha⟩
  exact @Carries.choice q R S a next true first second ha hR hS

theorem times (hf : Codes f R) (n : Nat) : Codes (Program.times f n) (Times R n) := by
  induction n with
  | zero => exact skip
  | succ n ih =>
      rw [times_add, times_one]
      exact ih.comp hf

/-- The last time is built in front of the others. -/
theorem times_succ (n next : Nat) (p : Program) :
    Program.times f (n + 1) next p
      = f (Program.times f n next p).1 (Program.times f n next p).2 := by
  induction n generalizing next p with
  | zero => rfl
  | succ n ih => exact ih _ _

/-- The numbers of steps may be described in another way. -/
theorem counted {P P' : Nat → Prop} (hf : Codes f (Repeats P R)) (h : ∀ n, P n ↔ P' n) :
    Codes f (Repeats P' R) :=
  repeats_congr h ▸ hf

theorem upTo (hf : Codes f R) (greedy : Bool) (n : Nat) :
    Codes (fun next => Program.times (Program.optional f greedy next) n next)
      (Repeats (· ≤ n) R) := by
  induction n with
  | zero =>
      rw [repeats_le_zero]
      exact skip
  | succ n ih =>
      rw [repeats_le_succ]
      exact .of_eq ((hf.comp ih).pass greedy) fun next p => times_succ n next p

theorem loop (hf : Codes f R) (greedy : Bool) :
    Codes (Program.loop f greedy) (Repeats (1 ≤ ·) R) := by
  intro next
  refine (Builds.reserve hf _ (fun entry => Program.choice greedy entry next)
    fun _ entry => entry).imp ?_
  rintro q _ ⟨again, entry, rfl, hR, ha⟩
  rw [repeats_pos]
  exact hR.comp (.loop ha hR)

theorem freeLoop (hf : Codes f R) (greedy : Bool) :
    Codes (Program.freeLoop f greedy) (Repeats (0 ≤ ·) R) := by
  intro next
  refine (Builds.reserve hf _ (fun entry => Program.choice greedy entry next)
    fun again _ => again).imp ?_
  rintro q _ ⟨again, entry, rfl, hR, ha⟩
  exact .loop ha hR

theorem repetition (hf : Codes f R) (nullable : Bool) (least : Nat) (most : Option Nat)
    (greedy : Bool) :
    Codes (Program.repetition f nullable least most greedy)
      (Repeats (fun n => least ≤ n ∧ ∀ m ∈ most, n ≤ max least m) R) := by
  cases most with
  | some m =>
      have h := (hf.times least).comp (hf.upTo greedy (m - least))
      rw [times_comp_repeats] at h
      -- `least` times, and then as often again as `most` leaves room for
      have hcount : ∀ n, (∃ k, k ≤ m - least ∧ n = least + k)
          ↔ least ≤ n ∧ ∀ m' ∈ some m, n ≤ max least m' := by
        intro n
        simp only [Option.mem_some, forall_eq']
        constructor
        · rintro ⟨k, hk, rfl⟩
          omega
        · rintro ⟨hle, hmax⟩
          exact ⟨n - least, by omega, by omega⟩
      refine (h.counted hcount).of_eq fun next p => ?_
      cases least with
      | zero => rfl
      | succ least => rfl
  | none =>
      have hnone : ∀ n, ∀ m ∈ (none : Option Nat), n ≤ max least m := by
        intro n m hm
        cases hm
      cases least with
      | succ least =>
          have h := (hf.times least).comp (hf.loop greedy)
          rw [times_comp_repeats] at h
          refine h.counted fun n => ⟨?_, ?_⟩
          · rintro ⟨k, hk, rfl⟩
            exact ⟨by omega, hnone _⟩
          · rintro ⟨hle, -⟩
            exact ⟨n - least, by omega, by omega⟩
      | zero =>
          cases nullable with
          | true =>
              -- the body may take nothing, so the loop is passed by as a whole
              have h := (hf.loop greedy).pass greedy
              rw [repeats_or_eq] at h
              exact h.counted fun n => ⟨fun _ => ⟨Nat.zero_le n, hnone n⟩, fun _ => by omega⟩
          | false =>
              exact (hf.freeLoop greedy).counted fun n => ⟨fun h => ⟨h, hnone n⟩, And.left⟩

/-- The first group, around its body. -/
theorem group (hf : Codes f R) :
    Codes (fun next p => (f (p.add (.closing next)).1 (p.add (.closing next)).2).2.add
        (.opening (f (p.add (.closing next)).1 (p.add (.closing next)).2).1))
      fun s t => ∃ u, R s.begun u ∧ t = u.ended := by
  have hopening : Codes (fun next p => p.add (.opening next)) fun s t => t = s.begun := by
    refine of_instruction (fun next h => by cases h) fun {next a s t} => ⟨?_, ?_⟩
    · intro h
      cases h
      exact ⟨rfl, rfl⟩
    · rintro ⟨rfl, rfl⟩
      exact .opening
  have hclosing : Codes (fun next p => p.add (.closing next)) fun s t => t = s.ended := by
    refine of_instruction (fun next h => by cases h) fun {next a s t} => ⟨?_, ?_⟩
    · intro h
      cases h
      exact ⟨rfl, rfl⟩
    · rintro ⟨rfl, rfl⟩
      exact .closing
  refine (hopening.comp (hf.comp hclosing)).congr fun s t => ⟨?_, ?_⟩
  · rintro ⟨u, rfl, h⟩
    exact h
  · intro h
    exact ⟨s.begun, rfl, h⟩

end Codes

/-- The code of a pattern is passed as the pattern spans. -/
theorem codes (c : Core) : Codes (Program.code c) c.Spans := by
  induction c with
  | empty => exact .skip
  | set set =>
      refine .of_instruction (fun next h => by cases h) fun {next a s t} => ⟨?_, ?_⟩
      · intro h
        cases h with
        | take h => exact ⟨rfl, h⟩
      · rintro ⟨rfl, h⟩
        exact .take h
  | look condition =>
      refine .of_instruction (fun next h => by cases h) fun {next a s t} => ⟨?_, ?_⟩
      · intro h
        cases h with
        | check h => exact ⟨rfl, h⟩
      · rintro ⟨rfl, h⟩
        exact .check h
  | seq a b iha ihb => exact iha.comp ihb
  | alt a b iha ihb => exact iha.alt ihb
  | rep least most greedy body ih => exact ih.repetition body.nullable least most greedy
  | group index body ih =>
      by_cases hindex : index = 1
      · rw [Core.Spans, if_pos hindex]
        exact ih.group.of_eq fun next p => if_pos (beq_iff_eq.mpr hindex)
      · rw [Core.Spans, if_neg hindex]
        exact ih.of_eq fun next p => if_neg fun h => hindex (beq_iff_eq.mp h)

/-! ## A whole pattern -/

/-- The matches of a program are those of the pattern that it was built from. -/
theorem matchesAt_ofCore (c : Core) (text : List Char) (i : Nat) (r : Way) :
    MatchesAt (Program.ofCore c).2 (Program.ofCore c).1 text i r
      ↔ ∃ t, c.Matches text i t ∧ r = t.way 0 := by
  have hbuilds := codes c 0
  have hcarries := hbuilds.right #[.accept] (Program.ofCore c).2 fun _ _ _ => rfl
  have haccept : (Program.ofCore c).2[0]? = some .accept :=
    hbuilds.kept #[.accept] 0 (Nat.zero_lt_succ 0)
  constructor
  · rintro ⟨hi, hpath⟩
    obtain ⟨n, hn⟩ := hpath.exists_pathIn
    obtain ⟨t, hspans, m, -, hm⟩ := hcarries.complete hn
    refine ⟨t, ⟨hi, hspans⟩, ?_⟩
    cases hm with
    | accept => rfl
    | go hi' hdoes =>
        cases haccept.symm.trans hi'
        cases hdoes
  · rintro ⟨t, ⟨hi, hspans⟩, rfl⟩
    obtain ⟨n, hn⟩ := hcarries.sound hspans (.accept haccept)
    exact ⟨hi, hn.path⟩

@[simp] theorem program_ofCore (source : String) (c : Core) :
    (ofCore source c).program = (Program.ofCore c).2 := rfl

@[simp] theorem entry_ofCore (source : String) (c : Core) :
    (ofCore source c).entry = (Program.ofCore c).1 := rfl

/-- A text with a core compiles just when it fits, and then to the pattern of its core. -/
theorem compile_of_core {source : String} {c : Core} (hc : coreOfText source = .ok c)
    {p : Pattern} : compile source = .ok p ↔ fits source = true ∧ ofCore source c = p := by
  rw [compile, hc]
  dsimp only
  by_cases hfits : fits source = true
  · rw [if_pos hfits, and_iff_right hfits]
    exact ⟨Except.ok.inj, congrArg Except.ok⟩
  · rw [if_neg hfits]
    refine iff_of_false (fun h => ?_) fun h => hfits h.1
    cases h

theorem exists_core_of_compile {source : String} {p : Pattern} (h : compile source = .ok p) :
    ∃ c, coreOfText source = .ok c ∧ ofCore source c = p := by
  cases hc : coreOfText source with
  | error complaint =>
      rw [compile, hc] at h
      cases h
  | ok c => exact ⟨c, rfl, ((compile_of_core hc).mp h).2⟩

/-- A pattern takes what its first group takes in the match that begins first. -/
theorem captures_capture? {source : String} {p : Pattern} (h : compile source = .ok p)
    (text : String) :
    ∃ c, coreOfText source = .ok c ∧ c.Captures text (p.capture? text) := by
  obtain ⟨c, hcore, rfl⟩ := exists_core_of_compile h
  refine ⟨c, hcore, ?_⟩
  rw [capture?, program_ofCore, entry_ofCore]
  cases hsearch : search (Program.ofCore c).2 (Program.ofCore c).1 text.toList with
  | none =>
      refine .nowhere fun i t hmatch => ?_
      exact search_eq_none.mp hsearch i _ ((matchesAt_ofCore c _ i _).mpr ⟨t, hmatch, rfl⟩)
  | some r =>
      obtain ⟨i, hway, hbefore⟩ := leftmost_of_search hsearch
      obtain ⟨t, hmatch, rfl⟩ := (matchesAt_ofCore c _ i r).mp hway
      have hleftmost := Core.Captures.leftmost hmatch fun j hj t' hmatch' =>
        hbefore j hj _ ((matchesAt_ofCore c _ j _).mpr ⟨t', hmatch', rfl⟩)
      have htaken : (t.way 0).taken = t.taken := rfl
      cases ht : t.taken with
      | none =>
          rw [ht] at hleftmost
          simpa [htaken, ht] using hleftmost
      | some taken =>
          rw [ht] at hleftmost
          simpa [htaken, ht] using hleftmost

end ReleaseGate.Pattern
