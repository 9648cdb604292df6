import Mathlib.Data.List.TakeWhile
import ReleaseGate.Text.Blank

/-!
# Trimmed text — what is left without the white space at either end

A text is blank when it holds no character but white space. Any other text is trimmed to what lies
between its first and its last character of another kind, these two included. Both are said here
without the loops that find these characters.
-/

namespace ReleaseGate.Text

/-- A text holds something: a character that is no white space. -/
def Filled (s : String) : Prop :=
  ∃ c ∈ s.toList, isBlank c = false

theorem blank_eq_false_iff (s : String) : blank s = false ↔ Filled s := by
  simp only [blank, List.all_eq_false, Bool.not_eq_true, Filled]

/-- One text is another without the white space at either end. -/
structure Trims (s t : String) : Prop where
  cut : ∃ front back, s.toList = front ++ t.toList ++ back
    ∧ (∀ c ∈ front, isBlank c = true) ∧ ∀ c ∈ back, isBlank c = true
  first : ∀ c ∈ t.toList.head?, isBlank c = false
  last : ∀ c ∈ t.toList.getLast?, isBlank c = false

theorem filled_append (a b : String) : Filled (a ++ b) ↔ Filled a ∨ Filled b := by
  simp only [Filled, String.toList_append, List.mem_append, or_and_right, exists_or]

/-! ## One end -/

theorem dropWhile_isBlank_append {front cs : List Char} (hfront : ∀ c ∈ front, isBlank c = true)
    (hcs : ∀ c ∈ cs.head?, isBlank c = false) : (front ++ cs).dropWhile isBlank = cs := by
  rw [List.dropWhile_append_of_pos hfront]
  cases cs with
  | nil => rfl
  | cons c cs =>
      have hc := hcs c rfl
      exact List.dropWhile_cons_of_neg (Bool.eq_false_iff.mp hc)

theorem exists_dropWhile_isBlank (cs : List Char) :
    ∃ front, cs = front ++ cs.dropWhile isBlank ∧ (∀ c ∈ front, isBlank c = true)
      ∧ ∀ c ∈ (cs.dropWhile isBlank).head?, isBlank c = false := by
  refine ⟨cs.takeWhile isBlank, List.takeWhile_append_dropWhile.symm, ?_, ?_⟩
  · intro c hc
    exact List.mem_takeWhile_imp hc
  · intro c hc
    have hhead := List.head?_dropWhile_not isBlank cs
    rw [hc] at hhead
    exact hhead

/-- At the other end, a list is trimmed as its reverse is at the front. -/
theorem trimEnd_append {cs back : List Char} (hback : ∀ c ∈ back, isBlank c = true)
    (hcs : ∀ c ∈ cs.getLast?, isBlank c = false) : trimEnd (cs ++ back) = cs := by
  rw [trimEnd, List.reverse_append, dropWhile_isBlank_append, List.reverse_reverse]
  · intro c hc
    exact hback c (List.mem_reverse.mp hc)
  · rw [List.head?_reverse]
    exact hcs

theorem exists_trimEnd (cs : List Char) :
    ∃ back, cs = trimEnd cs ++ back ∧ (∀ c ∈ back, isBlank c = true)
      ∧ ∀ c ∈ (trimEnd cs).getLast?, isBlank c = false := by
  obtain ⟨front, hcs, hfront, hhead⟩ := exists_dropWhile_isBlank cs.reverse
  refine ⟨front.reverse, ?_, ?_, ?_⟩
  · rw [trimEnd, ← List.reverse_append, ← hcs, List.reverse_reverse]
  · intro c hc
    exact hfront c (List.mem_reverse.mp hc)
  · rw [trimEnd, List.getLast?_reverse]
    exact hhead

/-! ## Both ends -/

/-- A text is trimmed to the one text that it is without the white space at either end. -/
theorem trim_eq_iff (s t : String) : trim s = t ↔ Trims s t := by
  constructor
  · rintro rfl
    obtain ⟨front, hs, hfront, hfirst⟩ := exists_dropWhile_isBlank s.toList
    obtain ⟨back, hrest, hback, hlast⟩ := exists_trimEnd (s.toList.dropWhile isBlank)
    have hlist : (trim s).toList = trimEnd (s.toList.dropWhile isBlank) := String.toList_ofList
    refine ⟨⟨front, back, ?_, hfront, hback⟩, ?_, ?_⟩
    · rw [hlist, List.append_assoc, ← hrest, ← hs]
    · intro c hc
      -- what comes first is not cut off at the other end
      refine hfirst c ?_
      rw [hrest, List.head?_append, ← hlist, hc]
      rfl
    · rw [hlist]
      exact hlast
  · rintro ⟨⟨front, back, hs, hfront, hback⟩, hfirst, hlast⟩
    by_cases hnil : t.toList = []
    · have hall : ∀ c ∈ front ++ back, isBlank c = true := by
        intro c hc
        exact (List.mem_append.mp hc).elim (hfront c) (hback c)
      rw [hnil, List.append_nil] at hs
      have hdrop : s.toList.dropWhile isBlank = [] := by
        rw [hs, ← List.append_nil (front ++ back)]
        exact dropWhile_isBlank_append hall (by simp)
      rw [trim, hdrop, ← String.ofList_toList (s := t), hnil]
      rfl
    · obtain ⟨c, rest, ht⟩ := List.exists_cons_of_ne_nil hnil
      have hdrop : s.toList.dropWhile isBlank = t.toList ++ back := by
        rw [hs, List.append_assoc]
        refine dropWhile_isBlank_append hfront fun c' hc' => hfirst c' ?_
        rw [ht] at hc' ⊢
        exact hc'
      rw [trim, hdrop, trimEnd_append hback hlast, String.ofList_toList]

/-- Nothing is left of a text just when it holds nothing. -/
theorem trims_empty_iff (s : String) : Trims s "" ↔ ¬ Filled s := by
  constructor
  · rintro ⟨⟨front, back, hs, hfront, hback⟩, -, -⟩ ⟨c, hc, hfilled⟩
    have hblank : isBlank c = true := by
      rw [hs, String.toList_empty, List.append_nil] at hc
      exact (List.mem_append.mp hc).elim (hfront c) (hback c)
    rw [hblank] at hfilled
    cases hfilled
  · intro hblank
    refine ⟨⟨s.toList, [], by simp, fun c hc => ?_, by simp⟩, by simp, by simp⟩
    by_contra hc'
    exact hblank ⟨c, hc, Bool.eq_false_iff.mpr hc'⟩

/-- What is left of a text is filled unless it is empty. -/
theorem Trims.filled {s t : String} (h : Trims s t) (ht : t ≠ "") : Filled t := by
  have hne : t.toList ≠ [] := fun hnil => ht (String.toList_inj.mp hnil)
  obtain ⟨c, rest, hcs⟩ := List.exists_cons_of_ne_nil hne
  refine ⟨c, ?_, h.first c ?_⟩
  · rw [hcs]
    exact List.mem_cons_self
  · rw [hcs]
    rfl

end ReleaseGate.Text
