import Mathlib.Data.List.Nodup
import Mathlib.Data.List.Perm.Subperm
import ReleaseGate.Files

/-!
# Directories — entries that come and go, and paths of one name

A fresh name is indeed fresh: among one more candidate than there are entries, some candidate is
free. An entry put under such a name and removed again leaves the directory as it was. A path of one
name leads to the entry of that name, unless the name is one that no entry has.
-/

namespace ReleaseGate

namespace Directory

/-! ## Fresh names -/

private theorem toString_injective : Function.Injective (toString : Nat → String) := by
  intro m n h
  have hdigits : Nat.toDigits 10 m = Nat.toDigits 10 n := by
    rw [← Nat.toList_repr, ← Nat.toList_repr]
    exact congrArg String.toList h
  rw [← Nat.ofDigitChars_ten_toDigits (n := m), hdigits, Nat.ofDigitChars_ten_toDigits]

private theorem append_injective (stem : String) :
    Function.Injective fun n : Nat => stem ++ toString n := by
  intro m n h
  have hlist : stem.toList ++ (toString m).toList = stem.toList ++ (toString n).toList := by
    rw [← String.toList_append, ← String.toList_append]
    exact congrArg String.toList h
  exact toString_injective (String.toList_inj.mp (List.append_cancel_left hlist))

/-- A fresh name is the name of no entry. -/
theorem lookup_freshName (stem : String) (d : Directory) :
    List.lookup (freshName stem d) d = none := by
  let candidates := (List.range (d.length + 1)).map fun n => stem ++ toString n
  show List.lookup ((candidates.find? fun name => (d.lookup name).isNone).getD stem) d = none
  cases hfind : candidates.find? fun name => (d.lookup name).isNone with
  | some name =>
      have hfree : (List.lookup name d).isNone = true :=
        List.find?_some (p := fun name => (List.lookup name d).isNone) hfind
      exact Option.isNone_iff_eq_none.mp hfree
  | none =>
      -- otherwise every candidate names an entry, and there are more candidates than entries
      exfalso
      have hsub : candidates ⊆ d.map Prod.fst := by
        intro name hname
        have hsome := List.find?_eq_none.mp hfind name hname
        cases hl : d.lookup name with
        | none =>
            rw [hl] at hsome
            exact absurd rfl hsome
        | some node =>
            obtain ⟨before, after, hd, -⟩ := List.lookup_eq_some_iff.mp hl
            rw [hd]
            simp
      have hnodup : candidates.Nodup := List.Nodup.map (append_injective stem) List.nodup_range
      have hlen := (hnodup.subperm hsub).length_le
      rw [List.length_map, List.length_map, List.length_range] at hlen
      omega

/-! ## Putting and removing -/

/-- Under a name of no entry, a node is put at the end. -/
theorem put_of_lookup_none {name : String} {d : Directory} (h : List.lookup name d = none)
    (node : Node) : put name node d = d ++ [(name, node)] := by
  induction d with
  | nil => rfl
  | cons entry rest ih =>
      rw [List.lookup_cons] at h
      by_cases hname : (name == entry.1) = true
      · rw [hname] at h
        exact nomatch h
      · have hne : (entry.1 == name) = false := by
          rw [beq_eq_false_iff_ne]
          intro heq
          exact hname (beq_iff_eq.mpr heq.symm)
        rw [Bool.not_eq_true] at hname
        rw [hname] at h
        rw [put, hne, ih h]
        rfl

/-- What is put under a name is found there. -/
theorem lookup_put (name : String) (node : Node) (d : Directory) :
    List.lookup name (put name node d) = some node := by
  induction d with
  | nil => exact List.lookup_cons_self
  | cons entry rest ih =>
      rw [put]
      by_cases hname : (entry.1 == name) = true
      · rw [if_pos hname]
        exact List.lookup_cons_self
      · have hne : (name == entry.1) = false := by
          rw [beq_eq_false_iff_ne]
          intro heq
          exact hname (beq_iff_eq.mpr heq.symm)
        rw [if_neg hname, List.lookup_cons, hne]
        exact ih

/-- A node put in place of another leaves no trace of it. -/
theorem put_put (name : String) (old new : Node) (d : Directory) :
    put name new (put name old d) = put name new d := by
  induction d with
  | nil => simp [put]
  | cons entry rest ih =>
      by_cases hname : (entry.1 == name) = true
      · simp [put, hname]
      · rw [Bool.not_eq_true] at hname
        simp [put, hname, ih]

/-- What was put under a name of no entry can be removed again. -/
theorem remove_put {name : String} {d : Directory} (h : List.lookup name d = none) (node : Node) :
    remove name (put name node d) = d := by
  rw [put_of_lookup_none h, remove, List.filter_append]
  -- no other entry has the name
  have hkeep : d.filter (fun entry => entry.1 != name) = d := by
    rw [List.filter_eq_self]
    intro entry hentry
    have := List.lookup_eq_none_iff.mp h entry hentry
    rw [bne_iff_ne] at this ⊢
    exact this.symm
  rw [hkeep]
  simp

end Directory

/-! ## Paths of one name -/

namespace Path

private theorem splitFrom_of_no_slash {cs : List Char} (h : '/' ∉ cs) :
    ∀ name : List Char, splitFrom name cs = [name.reverse ++ cs] := by
  induction cs with
  | nil =>
      intro name
      rw [splitFrom, List.append_nil]
  | cons c cs ih =>
      intro name
      have hc : (c == '/') = false := by
        rw [beq_eq_false_iff_ne]
        intro heq
        exact h (heq ▸ List.mem_cons_self ..)
      rw [splitFrom, hc, if_neg Bool.false_ne_true,
        ih (fun hmem => h (List.mem_cons_of_mem _ hmem)), List.reverse_cons, List.append_assoc]
      rfl

private theorem splitFrom_append (cs ds : List Char) :
    ∀ name : List Char,
      splitFrom name (cs ++ '/' :: ds) = splitFrom name cs ++ splitFrom [] ds := by
  induction cs with
  | nil =>
      intro name
      rfl
  | cons c cs ih =>
      intro name
      by_cases hc : (c == '/') = true
      · rw [List.cons_append, splitFrom, splitFrom, if_pos hc, if_pos hc, ih]
        rfl
      · rw [List.cons_append, splitFrom, splitFrom, if_neg hc, if_neg hc, ih]

/-- A text without a slash is a path of one name. -/
theorem names_of_no_slash {name : String} (h : '/' ∉ name.toList) : names name = [name] := by
  rw [names, splitFrom_of_no_slash h, List.reverse_nil, List.nil_append, List.map_singleton,
    String.ofList_toList]

/-- The names of a path behind another. -/
theorem names_append (a b : String) : names (a ++ "/" ++ b) = names a ++ names b := by
  have hlist : (a ++ "/" ++ b).toList = a.toList ++ '/' :: b.toList := by
    rw [String.toList_append, String.toList_append, List.append_assoc]
    rfl
  rw [names, hlist, splitFrom_append, List.map_append]
  rfl

/-- A text without a slash is no path from the root. -/
theorem isAbsolute_of_no_slash {name : String} (h : '/' ∉ name.toList) :
    isAbsolute name = false := by
  rw [isAbsolute]
  cases hl : name.toList with
  | nil => rfl
  | cons c cs =>
      rw [beq_eq_false_iff_ne]
      intro heq
      rw [hl] at h
      exact h (Option.some.inj heq ▸ List.mem_cons_self ..)

/-- One name leads up by one directory at most. -/
theorem staysBelow_singleton (depth : Nat) (name : String) :
    staysBelow (depth + 1) [name] = true := by
  rw [staysBelow]
  by_cases hself : (name.isEmpty || name == ".") = true
  · rw [if_pos hself]
    rfl
  rw [if_neg hself]
  by_cases habove : (name == "..") = true
  · rw [if_pos habove]
    rfl
  rw [if_neg habove]
  rfl

/-- A path can be followed when it holds no NUL and is not too long. -/
theorem fault?_eq_none_iff {path : String} :
    fault? path = none ↔ '\x00' ∉ path.toList ∧ path.utf8ByteSize ≤ longestPath := by
  rw [fault?]
  by_cases hnul : path.toList.contains '\x00' = true
  · rw [if_pos hnul]
    constructor
    · intro h
      exact nomatch h
    · intro h
      exact absurd (List.contains_iff_mem.mp hnul) h.1
  · rw [if_neg hnul]
    have hnul' : '\x00' ∉ path.toList := fun h => hnul (List.contains_iff_mem.mpr h)
    by_cases hlong : longestPath < path.utf8ByteSize
    · rw [if_pos hlong]
      constructor
      · intro h
        exact nomatch h
      · intro h
        exact absurd h.2 (Nat.not_le_of_lt hlong)
    · rw [if_neg hlong]
      exact ⟨fun _ => ⟨hnul', Nat.le_of_not_lt hlong⟩, fun _ => rfl⟩

end Path

/-- A name that an entry of a directory can have. -/
structure IsEntryName (name : String) : Prop where
  notEmpty : name ≠ ""
  notSelf : name ≠ "."
  notAbove : name ≠ ".."
  noSlash : '/' ∉ name.toList
  noNul : '\x00' ∉ name.toList
  short : name.utf8ByteSize ≤ Path.longestName

/-- The directory holds a file with the given content under a name. -/
def Directory.HasFile (d : Directory) (name : String) (content : List UInt8) : Prop :=
  IsEntryName name ∧ List.lookup name d = some (.file content)

namespace Node

/-- Following one name from a directory comes to a file just when it holds the file. -/
theorem follow_eq_file {name : String} (hempty : name ≠ "") (hslash : '/' ∉ name.toList)
    (hnul : '\x00' ∉ name.toList) (above : Directory) (outer : List Node) (d : Directory)
    (content : List UInt8) :
    follow (.directory above :: outer) (.directory d) [name] = .ok (.file content)
      ↔ d.HasFile name content := by
  have hne : name.isEmpty = false := by
    rw [Bool.eq_false_iff]
    intro h
    exact hempty (String.isEmpty_iff.mp h)
  rw [follow, hne, Bool.false_or]
  by_cases hself : (name == ".") = true
  · rw [if_pos hself]
    constructor
    · intro h
      exact nomatch h
    · intro h
      exact absurd (beq_iff_eq.mp hself) h.1.notSelf
  rw [if_neg hself]
  by_cases habove : (name == "..") = true
  · rw [if_pos habove]
    constructor
    · intro h
      exact nomatch h
    · intro h
      exact absurd (beq_iff_eq.mp habove) h.1.notAbove
  rw [if_neg habove]
  by_cases hlong : Path.longestName < name.utf8ByteSize
  · rw [if_pos hlong]
    constructor
    · intro h
      exact nomatch h
    · intro h
      exact absurd h.1.short (Nat.not_le_of_lt hlong)
  rw [if_neg hlong]
  -- no check is left: it is now up to the entry
  have hname : IsEntryName name :=
    ⟨hempty, fun h => hself (beq_iff_eq.mpr h), fun h => habove (beq_iff_eq.mpr h), hslash, hnul,
      Nat.le_of_not_lt hlong⟩
  cases hl : List.lookup name d with
  | none =>
      constructor
      · intro h
        exact nomatch h
      · intro h
        rw [h.2] at hl
        exact nomatch hl
  | some node =>
      constructor
      · intro h
        refine ⟨hname, ?_⟩
        rw [hl]
        exact congrArg some (Except.ok.inj h)
      · intro h
        rw [h.2] at hl
        rw [← Option.some.inj hl]
        rfl

end Node

end ReleaseGate
