import Mathlib.Data.List.Forall2
import Mathlib.Data.List.Nodup

/-!
# Items taken one by one

A list is checked from its front, each item may fail, and the names of the items before it are
remembered. It goes through when each item goes through and the names are distinct; then looking up
a name finds the item that has it, wherever it stands.
-/

namespace ReleaseGate

section Except

variable {α β ε : Type}

/-- A computation goes well when each of its parts does. -/
theorem bind_eq_ok {x : Except ε α} {next : α → Except ε β} {b : β} :
    x >>= next = .ok b ↔ ∃ a, x = .ok a ∧ next a = .ok b := by
  cases x with
  | error e => exact ⟨fun h => (nomatch h), fun ⟨_, h, _⟩ => (nomatch h)⟩
  | ok a =>
      constructor
      · intro h
        exact ⟨a, rfl, h⟩
      · rintro ⟨a', ha, h⟩
        rw [Except.ok.inj ha]
        exact h

/-- A computation fails where the first of its parts does. -/
theorem bind_eq_error {x : Except ε α} {next : α → Except ε β} {e : ε} :
    x >>= next = .error e ↔ x = .error e ∨ ∃ a, x = .ok a ∧ next a = .error e := by
  cases x with
  | error e' =>
      constructor
      · intro h
        exact .inl (congrArg Except.error (Except.error.inj h))
      · rintro (h | ⟨a, h, -⟩)
        · exact congrArg Except.error (Except.error.inj h)
        · cases h
  | ok a =>
      constructor
      · intro h
        exact .inr ⟨a, rfl, h⟩
      · rintro (h | ⟨a', ha, h⟩)
        · cases h
        · rw [Except.ok.inj ha]
          exact h

/-- What is made of a computation. -/
theorem map_eq_ok {x : Except ε α} {f : α → β} {b : β} :
    x.map f = .ok b ↔ ∃ a, x = .ok a ∧ f a = b := by
  cases x with
  | error e => exact ⟨fun h => (nomatch h), fun ⟨_, h, _⟩ => (nomatch h)⟩
  | ok a =>
      constructor
      · intro h
        exact ⟨a, rfl, Except.ok.inj h⟩
      · rintro ⟨a', ha, h⟩
        rw [Except.ok.inj ha, ← h]
        rfl

theorem exists_eq_ok_of_isSome {x : Except ε α} (h : x.toOption.isSome = true) :
    ∃ a, x = .ok a := by
  cases x with
  | error e => exact nomatch h
  | ok a => exact ⟨a, rfl⟩

/-- A list is fitted item by item. -/
theorem mapM_eq_ok {f : α → Except ε β} (xs : List α) :
    ∀ ys, xs.mapM f = .ok ys ↔ List.Forall₂ (fun x y => f x = .ok y) xs ys := by
  induction xs with
  | nil =>
      intro ys
      rw [List.mapM_nil, List.forall₂_nil_left_iff]
      exact ⟨fun h => (Except.ok.inj h).symm, fun h => congrArg Except.ok h.symm⟩
  | cons x xs ih =>
      intro ys
      rw [List.mapM_cons, bind_eq_ok, List.forall₂_cons_left_iff]
      constructor
      · rintro ⟨y, hy, h⟩
        obtain ⟨rest, hrest, h⟩ := bind_eq_ok.mp h
        exact ⟨y, rest, hy, (ih rest).mp hrest, (Except.ok.inj h).symm⟩
      · rintro ⟨y, rest, hy, hrest, hys⟩
        refine ⟨y, hy, bind_eq_ok.mpr ⟨rest, (ih rest).mpr hrest, ?_⟩⟩
        rw [hys]
        rfl

end Except

/-! ## Distinct names -/

/-- Distinct names, none of which was seen before. -/
def Fresh (seen names : List String) : Prop :=
  names.Nodup ∧ ∀ name ∈ names, name ∉ seen

theorem fresh_nil (seen : List String) : Fresh seen [] :=
  ⟨List.nodup_nil, List.forall_mem_nil _⟩

theorem fresh_of_nothing_seen (names : List String) : Fresh [] names ↔ names.Nodup :=
  ⟨And.left, fun h => ⟨h, fun _ _ => List.not_mem_nil⟩⟩

/-- Behind a name, it counts as seen. -/
theorem fresh_cons {seen : List String} {name : String} {names : List String} :
    Fresh seen (name :: names) ↔ name ∉ seen ∧ Fresh (name :: seen) names := by
  rw [Fresh, Fresh, List.nodup_cons, List.forall_mem_cons]
  constructor
  · rintro ⟨⟨hhead, htail⟩, hnew, hrest⟩
    refine ⟨hnew, htail, ?_⟩
    intro other hother hmem
    rcases List.mem_cons.mp hmem with hname | hmem
    · exact hhead (hname ▸ hother)
    · exact hrest other hother hmem
  · rintro ⟨hnew, htail, hrest⟩
    refine ⟨⟨?_, htail⟩, hnew, ?_⟩
    · intro hmem
      exact hrest name hmem (List.mem_cons_self ..)
    · intro other hother hmem
      exact hrest other hother (List.mem_cons_of_mem _ hmem)

/-! ## Looking up a name -/

section Lookup

variable {α : Type}

/-- With distinct names, looking up a name finds the item that has it. -/
theorem find?_eq_some_of_nodup {name : α → String} {items : List α}
    (hnodup : (items.map name).Nodup) (key : String) (item : α) :
    (items.find? fun item => name item == key) = some item
      ↔ item ∈ items ∧ name item = key := by
  constructor
  · intro h
    exact ⟨List.mem_of_find?_eq_some h, by simpa using List.find?_some h⟩
  · rintro ⟨hmem, hname⟩
    cases hfound : items.find? fun item => name item == key with
    | none =>
        have hno := List.find?_eq_none.mp hfound item hmem
        exact absurd (beq_iff_eq.mpr hname) hno
    | some other =>
        have hmem' := List.mem_of_find?_eq_some hfound
        have hname' : name other = key := by simpa using List.find?_some hfound
        have hsame := List.inj_on_of_nodup_map hnodup hmem' hmem (hname'.trans hname.symm)
        rw [hsame]

/-- With distinct keys, looking up a key finds the value beside it. -/
theorem lookup_of_mem {l : List (String × α)} (hnodup : (l.map Prod.fst).Nodup) {key : String}
    {value : α} (hmem : (key, value) ∈ l) : l.lookup key = some value := by
  induction l with
  | nil => exact nomatch hmem
  | cons entry l ih =>
      obtain ⟨hhead, htail⟩ := List.nodup_cons.mp hnodup
      rcases List.mem_cons.mp hmem with hentry | hmem
      · rw [← hentry]
        exact List.lookup_cons_self
      · have hkey : key ≠ entry.1 := by
          intro h
          exact hhead (h ▸ List.mem_map_of_mem (f := Prod.fst) hmem)
        rw [List.lookup_cons, beq_eq_false_iff_ne.mpr hkey]
        exact ih htail hmem

end Lookup

end ReleaseGate
