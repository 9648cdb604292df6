import Mathlib.Data.Finset.Card
import Mathlib.Data.Set.Insert
import ReleaseGate.Pattern.Search

/-!
# What is reached without taking a character

`follow` goes through ways with a set of addresses that it has entered, and with enough fuel for all
of them. Without the fuel it is a relation with one rule for each of its cases. Its invariant is
that the addresses it has entered are closed: from each of them every way on leads to one of them,
so ways that come later lose nothing when they are not followed there a second time.
-/

namespace ReleaseGate.Pattern

/-- The addresses that an instruction goes on to without taking a character. -/
def Instruction.exits (n : Neighbours) : Instruction → List Nat
  | take _ _ | accept => []
  | check condition next => if condition.holds n then [next] else []
  | branch first second => [first, second]
  | opening next | closing next => [next]

theorem Way.map_address_branches (n : Neighbours) (position : Nat) (w : Way) (i : Instruction) :
    (w.branches n position i).map Way.address = i.exits n := by
  cases i with
  | check condition next =>
      rw [branches, Instruction.exits]
      by_cases hholds : condition.holds n = true
      · rw [if_pos hholds, if_pos hholds]
        rfl
      · rw [if_neg hholds, if_neg hholds]
        rfl
  | _ => rfl

theorem Instruction.exits_length_le (n : Neighbours) (i : Instruction) :
    (i.exits n).length ≤ 2 := by
  cases i with
  | check condition next =>
      rw [exits]
      by_cases hholds : condition.holds n = true
      · rw [if_pos hholds]
        exact Nat.le_succ 1
      · rw [if_neg hholds]
        exact Nat.zero_le 2
  | take set next => exact Nat.zero_le 2
  | accept => exact Nat.zero_le 2
  | branch first second => exact Nat.le_refl 2
  | opening next => exact Nat.le_succ 1
  | closing next => exact Nat.le_succ 1

theorem Way.length_branches_le (n : Neighbours) (position : Nat) (w : Way) (i : Instruction) :
    (w.branches n position i).length ≤ 2 := by
  rw [← List.length_map (f := Way.address), map_address_branches]
  exact i.exits_length_le n

section

variable (p : Program) (n : Neighbours) (position : Nat)

/-- Ways followed in order of preference, with the addresses that were entered before and after. -/
inductive Follows : Set Nat → List Way → List (Way × Instruction) → Set Nat → Prop where
  | nil {seen : Set Nat} : Follows seen [] [] seen
  | again {seen seen' : Set Nat} {w : Way} {ways : List Way} {found : List (Way × Instruction)} :
      w.address ∈ seen → Follows seen ways found seen' → Follows seen (w :: ways) found seen'
  | nowhere {seen seen' : Set Nat} {w : Way} {ways : List Way}
      {found : List (Way × Instruction)} :
      p[w.address]? = none → Follows seen ways found seen' → Follows seen (w :: ways) found seen'
  | waits {seen seen' : Set Nat} {w : Way} {i : Instruction} {ways : List Way}
      {found : List (Way × Instruction)} :
      w.address ∉ seen → p[w.address]? = some i → i.waits = true →
      Follows (insert w.address seen) ways found seen' →
      Follows seen (w :: ways) ((w, i) :: found) seen'
  | goes {seen seen' : Set Nat} {w : Way} {i : Instruction} {ways : List Way}
      {found : List (Way × Instruction)} :
      w.address ∉ seen → p[w.address]? = some i → i.waits = false →
      Follows (insert w.address seen) (w.branches n position i ++ ways) found seen' →
      Follows seen (w :: ways) found seen'

/-- The addresses in a set of digits. -/
def entered (seen : Seen) : Set Nat :=
  { a | seen.testBit a = true }

/-- The number of instructions that were not entered. -/
def unseen (seen : Seen) : Nat :=
  ((Finset.range p.size).filter fun a => seen.testBit a = false).card

theorem entered_zero : entered 0 = ∅ := by
  ext a
  simp [entered]

theorem testBit_add (seen : Seen) (a b : Nat) :
    (seen ||| (1 <<< a)).testBit b = (seen.testBit b || decide (a = b)) := by
  rw [Nat.testBit_or, Nat.one_shiftLeft, Nat.testBit_two_pow]

theorem entered_add (seen : Seen) (a : Nat) :
    entered (seen ||| (1 <<< a)) = insert a (entered seen) := by
  ext b
  simp only [entered, Set.mem_ofPred_eq, testBit_add, Bool.or_eq_true, decide_eq_true_eq,
    Set.mem_insert_iff]
  constructor
  · rintro (h | h)
    · exact .inr h
    · exact .inl h.symm
  · rintro (h | h)
    · exact .inr h.symm
    · exact .inl h

/-- Entering an instruction leaves fewer. -/
theorem unseen_add_lt {seen : Seen} {a : Nat} (hsize : a < p.size)
    (hnew : seen.testBit a = false) : unseen p (seen ||| (1 <<< a)) < unseen p seen := by
  refine Finset.card_lt_card (Finset.ssubset_iff_of_subset ?_ |>.mpr ⟨a, ?_, ?_⟩)
  · intro b hb
    simp only [Finset.mem_filter, testBit_add, Bool.or_eq_false_iff] at hb ⊢
    exact ⟨hb.1, hb.2.1⟩
  · exact Finset.mem_filter.mpr ⟨Finset.mem_range.mpr hsize, hnew⟩
  · simp

theorem unseen_zero : unseen p 0 = p.size := by
  simp [unseen]

variable {p n position}

/-- With enough fuel, `follow` goes through all ways. -/
theorem follows_follow (fuel : Nat) :
    ∀ (seen : Seen) (ways : List Way), ways.length + 2 * unseen p seen < fuel →
      ∃ seen', Follows p n position (entered seen) ways (follow p n position fuel seen ways)
        seen' := by
  induction fuel with
  | zero =>
      intro seen ways h
      exact absurd h (Nat.not_lt_zero _)
  | succ fuel ih =>
      intro seen ways h
      match ways with
      | [] => exact ⟨_, .nil⟩
      | w :: ways =>
          rw [List.length_cons] at h
          rw [follow]
          by_cases hseen : seen.testBit w.address = true
          · rw [if_pos hseen]
            obtain ⟨seen', hrest⟩ := ih seen ways (by omega)
            exact ⟨seen', .again hseen hrest⟩
          rw [if_neg hseen]
          cases hi : p[w.address]? with
          | none =>
              obtain ⟨seen', hrest⟩ := ih seen ways (by omega)
              exact ⟨seen', .nowhere hi hrest⟩
          | some i =>
              -- an instruction is entered once, which pays for the two ways it opens at most
              have hless := unseen_add_lt p (Array.getElem?_eq_some_iff.mp hi).1
                (Bool.eq_false_iff.mpr hseen)
              dsimp only
              by_cases hwaits : i.waits = true
              · rw [if_pos hwaits]
                obtain ⟨seen', hrest⟩ := ih (seen ||| (1 <<< w.address)) ways (by omega)
                rw [entered_add] at hrest
                exact ⟨seen', .waits hseen hi hwaits hrest⟩
              · rw [if_neg hwaits]
                have htwo := w.length_branches_le n position i
                obtain ⟨seen', hrest⟩ := ih (seen ||| (1 <<< w.address))
                  (w.branches n position i ++ ways) (by rw [List.length_append]; omega)
                rw [entered_add] at hrest
                exact ⟨seen', .goes hseen hi (Bool.eq_false_iff.mpr hwaits) hrest⟩

namespace Follows

variable {seen seen' : Set Nat} {ways : List Way} {found : List (Way × Instruction)}

/-- Addresses that were entered stay so. -/
theorem subset (h : Follows p n position seen ways found seen') : seen ⊆ seen' := by
  induction h with
  | nil => exact Set.Subset.rfl
  | again _ _ ih => exact ih
  | nowhere _ _ ih => exact ih
  | waits _ _ _ _ ih => exact (Set.subset_insert _ _).trans ih
  | goes _ _ _ _ ih => exact (Set.subset_insert _ _).trans ih

private theorem split_nil {all ways₂ : List Way} (h : Follows p n position seen all found seen')
    (hall : all = [] ++ ways₂) : ∃ found₁ found₂ between,
      Follows p n position seen [] found₁ between
        ∧ Follows p n position between ways₂ found₂ seen' ∧ found = found₁ ++ found₂ := by
  rw [List.nil_append] at hall
  rw [hall] at h
  exact ⟨[], found, seen, .nil, h, rfl⟩

/-- Ways one behind the other are followed one behind the other. -/
theorem of_append {all ways₂ : List Way} (h : Follows p n position seen all found seen') :
    ∀ {ways₁ : List Way}, all = ways₁ ++ ways₂ → ∃ found₁ found₂ between,
      Follows p n position seen ways₁ found₁ between
        ∧ Follows p n position between ways₂ found₂ seen' ∧ found = found₁ ++ found₂ := by
  induction h with
  | nil =>
      intro ways₁ hall
      obtain ⟨rfl, rfl⟩ := List.append_eq_nil_iff.mp hall.symm
      exact ⟨[], [], _, .nil, .nil, rfl⟩
  | again hseen hrest ih =>
      intro ways₁ hall
      match ways₁ with
      | [] => exact split_nil (.again hseen hrest) hall
      | w :: ways₁ =>
          obtain ⟨rfl, hways⟩ := List.cons.inj hall
          obtain ⟨found₁, found₂, between, h₁, h₂, hfound⟩ := ih hways
          exact ⟨found₁, found₂, between, .again hseen h₁, h₂, hfound⟩
  | nowhere hnone hrest ih =>
      intro ways₁ hall
      match ways₁ with
      | [] => exact split_nil (.nowhere hnone hrest) hall
      | w :: ways₁ =>
          obtain ⟨rfl, hways⟩ := List.cons.inj hall
          obtain ⟨found₁, found₂, between, h₁, h₂, hfound⟩ := ih hways
          exact ⟨found₁, found₂, between, .nowhere hnone h₁, h₂, hfound⟩
  | waits hnew hi hwaits hrest ih =>
      intro ways₁ hall
      match ways₁ with
      | [] => exact split_nil (.waits hnew hi hwaits hrest) hall
      | w :: ways₁ =>
          obtain ⟨rfl, hways⟩ := List.cons.inj hall
          obtain ⟨found₁, found₂, between, h₁, h₂, hfound⟩ := ih hways
          exact ⟨_ :: found₁, found₂, between, .waits hnew hi hwaits h₁, h₂,
            congrArg (_ :: ·) hfound⟩
  | @goes _ _ w i ways _ hnew hi hgoes hrest ih =>
      intro ways₁ hall
      match ways₁ with
      | [] => exact split_nil (.goes hnew hi hgoes hrest) hall
      | _ :: ways₁ =>
          -- what the instruction opens stands in front, so it belongs to the first part
          obtain ⟨rfl, hways⟩ := List.cons.inj hall
          have hways : ways = ways₁ ++ ways₂ := hways
          have hall : w.branches n position i ++ ways
              = (w.branches n position i ++ ways₁) ++ ways₂ := by
            rw [hways, List.append_assoc]
          obtain ⟨found₁, found₂, between, h₁, h₂, hfound⟩ := ih hall
          exact ⟨found₁, found₂, between, .goes hnew hi hgoes h₁, h₂, hfound⟩

/-- Every way leads to an address that was entered, or nowhere. -/
theorem entered_of_mem (h : Follows p n position seen ways found seen') {w : Way}
    (hw : w ∈ ways) : w.address ∈ seen' ∨ p[w.address]? = none := by
  induction h with
  | nil => cases hw
  | again hseen hrest ih =>
      rcases List.mem_cons.mp hw with rfl | hw
      · exact .inl (hrest.subset hseen)
      · exact ih hw
  | nowhere hnone hrest ih =>
      rcases List.mem_cons.mp hw with rfl | hw
      · exact .inr hnone
      · exact ih hw
  | waits hnew hi hwaits hrest ih =>
      rcases List.mem_cons.mp hw with rfl | hw
      · exact .inl (hrest.subset (Set.mem_insert _ _))
      · exact ih hw
  | goes hnew hi hgoes hrest ih =>
      rcases List.mem_cons.mp hw with rfl | hw
      · exact .inl (hrest.subset (Set.mem_insert _ _))
      · exact ih (List.mem_append_right _ hw)

/-- A way that was found waits at an instruction that was not entered before. -/
theorem waits_of_mem (h : Follows p n position seen ways found seen') {w : Way}
    {i : Instruction} (hw : (w, i) ∈ found) :
    p[w.address]? = some i ∧ i.waits = true ∧ w.address ∈ seen' ∧ w.address ∉ seen := by
  induction h with
  | nil => cases hw
  | again hseen hrest ih => exact ih hw
  | nowhere hnone hrest ih => exact ih hw
  | waits hnew hi hwaits hrest ih =>
      rcases List.mem_cons.mp hw with hsame | hw
      · obtain ⟨rfl, rfl⟩ := Prod.mk.inj hsame
        exact ⟨hi, hwaits, hrest.subset (Set.mem_insert _ _), hnew⟩
      · obtain ⟨hi', hwaits', hlate, hold⟩ := ih hw
        exact ⟨hi', hwaits', hlate, fun hmem => hold (Set.mem_insert_of_mem _ hmem)⟩
  | goes hnew hi hgoes hrest ih =>
      obtain ⟨hi', hwaits', hlate, hold⟩ := ih hw
      exact ⟨hi', hwaits', hlate, fun hmem => hold (Set.mem_insert_of_mem _ hmem)⟩

/-- Of the addresses entered on the way, some way was found at each that waits, and the others go
on to addresses that were entered as well. -/
theorem closed (h : Follows p n position seen ways found seen') {a : Nat} {i : Instruction}
    (ha : a ∈ seen') (hold : a ∉ seen) (hi : p[a]? = some i) :
    (i.waits = true ∧ ∃ w, (w, i) ∈ found ∧ w.address = a)
      ∨ (i.waits = false ∧ ∀ b ∈ i.exits n, b ∈ seen' ∨ p[b]? = none) := by
  induction h with
  | nil => exact absurd ha hold
  | again hseen hrest ih => exact ih ha hold
  | nowhere hnone hrest ih => exact ih ha hold
  | @waits seen seen' w i' ways found hnew hi' hwaits hrest ih =>
      by_cases hsame : a = w.address
      · have hii : i = i' := Option.some.inj (hi.symm.trans (hsame ▸ hi'))
        exact .inl ⟨hii ▸ hwaits, w, hii ▸ List.mem_cons_self .., hsame.symm⟩
      · rcases ih ha (fun hmem => (Set.mem_insert_iff.mp hmem).elim hsame hold) with
          ⟨hw, v, hv, hva⟩ | hgoes
        · exact .inl ⟨hw, v, List.mem_cons_of_mem _ hv, hva⟩
        · exact .inr hgoes
  | @goes seen seen' w i' ways found hnew hi' hgoes hrest ih =>
      by_cases hsame : a = w.address
      · have hii : i = i' := Option.some.inj (hi.symm.trans (hsame ▸ hi'))
        refine .inr ⟨hii ▸ hgoes, fun b hb => ?_⟩
        rw [hii, ← w.map_address_branches n position] at hb
        obtain ⟨v, hv, rfl⟩ := List.mem_map.mp hb
        exact hrest.entered_of_mem (List.mem_append_left _ hv)
      · exact ih ha (fun hmem => (Set.mem_insert_iff.mp hmem).elim hsame hold)

/-- What is found is determined by the ways and the addresses entered before. -/
theorem unique (h : Follows p n position seen ways found seen') :
    ∀ {found₂ : List (Way × Instruction)} {seen₂ : Set Nat},
      Follows p n position seen ways found₂ seen₂ → found = found₂ ∧ seen' = seen₂ := by
  induction h with
  | nil =>
      intro found₂ seen₂ h₂
      cases h₂
      exact ⟨rfl, rfl⟩
  | again hseen hrest ih =>
      intro found₂ seen₂ h₂
      cases h₂ with
      | again _ hrest₂ => exact ih hrest₂
      | nowhere _ hrest₂ => exact ih hrest₂
      | waits hnew => exact absurd hseen hnew
      | goes hnew => exact absurd hseen hnew
  | nowhere hnone hrest ih =>
      intro found₂ seen₂ h₂
      cases h₂ with
      | again _ hrest₂ => exact ih hrest₂
      | nowhere _ hrest₂ => exact ih hrest₂
      | waits _ hi =>
          rw [hnone] at hi
          cases hi
      | goes _ hi =>
          rw [hnone] at hi
          cases hi
  | waits hnew hi hwaits hrest ih =>
      intro found₂ seen₂ h₂
      cases h₂ with
      | again hseen => exact absurd hseen hnew
      | nowhere hnone =>
          rw [hnone] at hi
          cases hi
      | waits _ hi₂ _ hrest₂ =>
          obtain ⟨hfound, hseen⟩ := ih hrest₂
          have hsame := Option.some.inj (hi.symm.trans hi₂)
          exact ⟨congrArg₂ List.cons (congrArg _ hsame) hfound, hseen⟩
      | goes _ hi₂ hgoes =>
          rw [Option.some.inj (hi.symm.trans hi₂), hgoes] at hwaits
          cases hwaits
  | goes hnew hi hgoes hrest ih =>
      intro found₂ seen₂ h₂
      cases h₂ with
      | again hseen => exact absurd hseen hnew
      | nowhere hnone =>
          rw [hnone] at hi
          cases hi
      | waits _ hi₂ hwaits =>
          rw [← Option.some.inj (hi.symm.trans hi₂), hgoes] at hwaits
          cases hwaits
      | goes _ hi₂ _ hrest₂ =>
          rw [← Option.some.inj (hi.symm.trans hi₂)] at hrest₂
          exact ih hrest₂

/-- Ways to addresses that were entered, and ways to nowhere, find nothing. -/
theorem of_skipped (skipped : List Way) :
    Follows p n position seen (skipped ++ ways) found seen' →
      (∀ w ∈ skipped, w.address ∈ seen ∨ p[w.address]? = none) →
        Follows p n position seen ways found seen' := by
  induction skipped with
  | nil => exact fun h _ => h
  | cons w skipped ih =>
      intro h hall
      obtain ⟨hw, hall⟩ := List.forall_mem_cons.mp hall
      cases h with
      | again _ hrest => exact ih hrest hall
      | nowhere _ hrest => exact ih hrest hall
      | waits hnew hi =>
          rcases hw with hseen | hnone
          · exact absurd hseen hnew
          · rw [hnone] at hi
            cases hi
      | goes hnew hi =>
          rcases hw with hseen | hnone
          · exact absurd hseen hnew
          · rw [hnone] at hi
            cases hi

end Follows

/-- A set of addresses that is not left without taking a character. -/
def Closed (p : Program) (n : Neighbours) (s : Set Nat) : Prop :=
  ∀ a ∈ s, ∀ i, p[a]? = some i → i.waits = false → ∀ b ∈ i.exits n, b ∈ s ∨ p[b]? = none

theorem Follows.closed_of_empty {ways : List Way} {found : List (Way × Instruction)}
    {seen' : Set Nat} (h : Follows p n position ∅ ways found seen') : Closed p n seen' := by
  intro a ha i hi hgoes
  rcases h.closed ha (Set.notMem_empty a) hi with ⟨hwaits, -⟩ | ⟨-, hon⟩
  · rw [hgoes] at hwaits
    cases hwaits
  · exact hon

open Classical in
/-- When a closed set counts as entered from the start, just the ways in it are no longer found. -/
theorem Follows.filter {seen seen' : Set Nat} {ways : List Way}
    {found : List (Way × Instruction)} {s : Set Nat}
    (h : Follows p n position seen ways found seen') (hs : Closed p n s) :
    Follows p n position (seen ∪ s) ways (found.filter fun f => f.1.address ∉ s) (seen' ∪ s) := by
  induction h with
  | nil => exact .nil
  | again hseen hrest ih => exact .again (.inl hseen) ih
  | nowhere hnone hrest ih => exact .nowhere hnone ih
  | @waits seen seen' w i ways found hnew hi hwaits hrest ih =>
      rw [Set.insert_union] at ih
      by_cases hw : w.address ∈ s
      · rw [Set.insert_eq_of_mem (Set.mem_union_right _ hw)] at ih
        rw [List.filter_cons_of_neg (by simpa using hw)]
        exact .again (.inr hw) ih
      · rw [List.filter_cons_of_pos (by simpa using hw)]
        exact .waits (fun hmem => hmem.elim hnew hw) hi hwaits ih
  | @goes seen seen' w i ways found hnew hi hgoes hrest ih =>
      rw [Set.insert_union] at ih
      by_cases hw : w.address ∈ s
      · rw [Set.insert_eq_of_mem (Set.mem_union_right _ hw)] at ih
        -- all that the way would have opened is in the closed set as well
        refine .again (.inr hw) (ih.of_skipped (w.branches n position i) fun v hv => ?_)
        have hexit : v.address ∈ i.exits n := by
          rw [← w.map_address_branches n position]
          exact List.mem_map_of_mem hv
        exact (hs _ hw i hi hgoes _ hexit).imp_left (Set.mem_union_right _)
      · exact .goes (fun hmem => hmem.elim hnew hw) hi hgoes ih

end

/-! ## All that is reached at a position -/

/-- The waiting ways that are reached from given ones, in order of preference. -/
def reach (p : Program) (n : Neighbours) (position : Nat) (ways : List Way) :
    List (Way × Instruction) :=
  follow p n position (ways.length + 2 * p.size + 1) 0 ways

theorem follows_reach (p : Program) (n : Neighbours) (position : Nat) (ways : List Way) :
    ∃ seen', Follows p n position ∅ ways (reach p n position ways) seen' := by
  rw [← entered_zero]
  refine follows_follow _ 0 ways ?_
  rw [unseen_zero]
  omega

open Classical in
/-- Behind other ways, just those are lost that are at an address these have reached. -/
theorem reach_append (p : Program) (n : Neighbours) (position : Nat) (ways₁ ways₂ : List Way) :
    ∃ s : Set Nat, Closed p n s
      ∧ (∀ a ∈ s, ∀ i, p[a]? = some i → i.waits = true →
        ∃ w, (w, i) ∈ reach p n position ways₁ ∧ w.address = a)
      ∧ reach p n position (ways₁ ++ ways₂) = reach p n position ways₁
        ++ (reach p n position ways₂).filter fun f => f.1.address ∉ s := by
  obtain ⟨seen₁, h₁⟩ := follows_reach p n position ways₁
  obtain ⟨seen₂, h₂⟩ := follows_reach p n position ways₂
  obtain ⟨seen, h⟩ := follows_reach p n position (ways₁ ++ ways₂)
  have hclosed : Closed p n seen₁ := h₁.closed_of_empty
  refine ⟨seen₁, hclosed, ?_, ?_⟩
  · intro a ha i hi hwaits
    rcases h₁.closed ha (Set.notMem_empty a) hi with ⟨-, hfound⟩ | ⟨hgoes, -⟩
    · exact hfound
    · rw [hwaits] at hgoes
      cases hgoes
  · -- the second part is followed behind the first, which is the same as without what that entered
    obtain ⟨found₁, found₂, between, h₁', h₂', hfound⟩ := h.of_append rfl
    obtain ⟨hsame, hbetween⟩ := h₁.unique h₁'
    have h₂'' := h₂.filter hclosed
    rw [Set.empty_union, hbetween] at h₂''
    rw [hfound, ← hsame, (h₂'.unique h₂'').1, hbetween]

end ReleaseGate.Pattern
