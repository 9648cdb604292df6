import Mathlib.Data.List.TakeWhile
import ReleaseGate.Yaml.Cursor

/-!
# Places — where a cursor stands behind what it has read

A cursor is known by what is left to read and by its column. Behind characters that were next the
rest is what follows them. The column is counted from the last line break among them, or on from
where it was when there is none.
-/

namespace ReleaseGate.Yaml

/-! ## Characters -/

theorem isBreak_eq_false_of_isGap {x : Char} (h : isGap x = false) : isBreak x = false :=
  (Bool.or_eq_false_iff.mp h).2

theorem isBlank_eq_false_of_isGap {x : Char} (h : isGap x = false) : isBlank x = false :=
  (Bool.or_eq_false_iff.mp h).1

theorem ne_space_of_isGap {x : Char} (h : isGap x = false) : x ≠ ' ' := by
  rintro rfl
  exact nomatch h

theorem ne_tab_of_isGap {x : Char} (h : isGap x = false) : x ≠ '\t' := by
  rintro rfl
  exact nomatch h

/-- What is no gap is neither a break nor a tab. -/
theorem not_break_of_isGap {x : Char} (h : isGap x = false) : isBreak x = false ∧ x ≠ '\t' :=
  ⟨isBreak_eq_false_of_isGap h, ne_tab_of_isGap h⟩

/-- A character that no text is stopped at: neither a gap nor the mark of a comment. -/
def beginsToken (x : Char) : Bool :=
  !isGap x && x != '#' && x != '\uFEFF'

theorem beginsToken_iff {x : Char} :
    beginsToken x = true ↔ isGap x = false ∧ x ≠ '#' ∧ x ≠ '\uFEFF' := by
  rw [beginsToken, Bool.and_eq_true, Bool.and_eq_true, Bool.not_eq_true', bne_iff_ne, bne_iff_ne,
    and_assoc]

/-- What holds of the character in front holds of the first one. -/
theorem forall_head {P : Char → Prop} {x : Char} {more : List Char} (h : P x) :
    ∀ y ∈ (x :: more).head?, P y :=
  fun _ hy => Option.some.inj hy ▸ h

/-- Characters up to the first that does not satisfy a condition, and those from there on. -/
theorem exists_span (p : Char → Bool) (text : List Char) :
    ∃ a b, text = a ++ b ∧ (∀ x ∈ a, p x = true) ∧ ∀ x ∈ b.head?, p x = false := by
  refine ⟨text.takeWhile p, text.dropWhile p, List.takeWhile_append_dropWhile.symm,
    fun x => List.mem_takeWhile_imp, fun x hx => ?_⟩
  have hhead := List.head?_dropWhile_not p text
  rw [Option.mem_def.mp hx] at hhead
  exact hhead

/-- Characters up to the first that satisfies a condition, and those from there on. -/
theorem exists_span_not (p : Char → Bool) (text : List Char) :
    ∃ a b, text = a ++ b ∧ (∀ x ∈ a, p x = false) ∧ ∀ x ∈ b.head?, p x = true := by
  obtain ⟨a, b, htext, ha, hb⟩ := exists_span (fun x => !p x) text
  exact ⟨a, b, htext, fun x hx => by simpa using ha x hx, fun x hx => by simpa using hb x hx⟩

/-- No first character both satisfies a condition and does not. -/
theorem eq_nil_of_heads {p : Char → Bool} {text : List Char} (h : ∀ x ∈ text.head?, p x = true)
    (h' : ∀ x ∈ text.head?, p x = false) : text = [] := by
  cases text with
  | nil => rfl
  | cons x text => exact absurd (h x rfl) (Bool.eq_false_iff.mp (h' x rfl))

/-! ## Marks -/

namespace Mark

/-- A character that is no carriage return is passed by itself. -/
theorem past_cons {c : Char} (hc : c ≠ '\r') (m : Mark) (rest : List Char) :
    m.past (c :: rest) = (if isBreak c then m.nextLine else m.right).past rest := by
  rw [past.eq_def]
  split
  · rename_i heq
    cases heq
  · rename_i heq
    exact absurd (List.cons.inj heq).1 hc
  · rename_i heq
    rw [(List.cons.inj heq).1, (List.cons.inj heq).2]

/-- Characters without a line break stay on the line. -/
theorem past_of_no_break {taken : List Char} (h : ∀ x ∈ taken, isBreak x = false) :
    ∀ m : Mark, m.past taken = ⟨m.line, m.column + taken.length⟩ := by
  induction taken with
  | nil => exact fun m => rfl
  | cons c taken ih =>
      intro m
      obtain ⟨hc, hrest⟩ := List.forall_mem_cons.mp h
      have hreturn : c ≠ '\r' := by
        rintro rfl
        exact nomatch hc
      rw [past_cons hreturn, hc, if_neg Bool.false_ne_true, ih hrest]
      show (⟨m.line, m.column + 1 + taken.length⟩ : Mark) = _
      rw [List.length_cons]
      exact congrArg _ (by omega)

/-- Characters without a carriage return are passed one after the other. -/
theorem past_append {a : List Char} (h : ∀ x ∈ a, x ≠ '\r') (b : List Char) :
    ∀ m : Mark, m.past (a ++ b) = (m.past a).past b := by
  induction a with
  | nil => exact fun m => rfl
  | cons c a ih =>
      intro m
      obtain ⟨hc, hrest⟩ := List.forall_mem_cons.mp h
      rw [List.cons_append, past_cons hc, past_cons hc, ih hrest]

/-- Line breaks lead to the start of a line. -/
theorem past_of_breaks {breaks : List Char} (hne : breaks ≠ [])
    (h : ∀ x ∈ breaks, isBreak x = true ∧ x ≠ '\r') :
    ∀ m : Mark, (m.past breaks).column = 0 := by
  induction breaks with
  | nil => exact absurd rfl hne
  | cons c breaks ih =>
      intro m
      obtain ⟨⟨hbreak, hreturn⟩, hrest⟩ := List.forall_mem_cons.mp h
      rw [past_cons hreturn, if_pos hbreak]
      by_cases hnil : breaks = []
      · rw [hnil]
        rfl
      · exact ih hnil hrest _

end Mark

/-! ## Cursors -/

namespace Cursor

variable {c : Cursor} {taken more : List Char}

theorem past_rest (h : c.rest = taken ++ more) : (c.past taken).rest = more := by
  rw [past, h]
  exact List.drop_left

theorem past_column (h : ∀ x ∈ taken, isBreak x = false) :
    (c.past taken).mark.column = c.mark.column + taken.length := by
  show (c.mark.past taken).column = _
  rw [Mark.past_of_no_break h]

theorem past_line (h : ∀ x ∈ taken, isBreak x = false) :
    (c.past taken).mark.line = c.mark.line := by
  show (c.mark.past taken).line = _
  rw [Mark.past_of_no_break h]

theorem past_one_rest {x : Char} (h : c.rest = x :: more) : (c.past [x]).rest = more :=
  past_rest (show c.rest = [x] ++ more from h)

theorem past_two_rest {x y : Char} (h : c.rest = x :: y :: more) : (c.past [x, y]).rest = more :=
  past_rest (show c.rest = [x, y] ++ more from h)

theorem past_nil (c : Cursor) : c.past [] = c := rfl

/-- To skip characters is to pass them. -/
theorem skip_eq (h : c.rest = taken ++ more) : c.skip taken.length = c.past taken := by
  rw [skip, h, List.take_left]

theorem skip_one_rest {x : Char} (h : c.rest = x :: more) : (c.skip 1).rest = more := by
  rw [skip, h]
  exact past_one_rest h

theorem skip_one_column {x : Char} (h : c.rest = x :: more) (hx : isBreak x = false) :
    (c.skip 1).mark.column = c.mark.column + 1 := by
  rw [skip, h]
  exact past_column (List.forall_mem_singleton.mpr hx)

/-- Behind two characters that are no breaks. -/
theorem skip_two {x y : Char} (hx : isBreak x = false) (hy : isBreak y = false)
    (h : c.rest = x :: y :: more) :
    (c.skip 2).rest = more ∧ (c.skip 2).mark.column = c.mark.column + 2 := by
  have hskip : c.skip 2 = c.past [x, y] := skip_eq (show c.rest = [x, y] ++ more from h)
  rw [hskip]
  exact ⟨past_two_rest h,
    past_column (List.forall_mem_cons.mpr ⟨hx, List.forall_mem_singleton.mpr hy⟩)⟩

/-- The characters that satisfy a condition are taken up to the first that does not. -/
theorem span_eq {p : Char → Bool} (h : c.rest = taken ++ more) (htaken : ∀ x ∈ taken, p x = true)
    (hmore : ∀ x ∈ more.head?, p x = false) : c.span p = (taken, c.past taken) := by
  have htake : (taken ++ more).takeWhile p = taken := by
    rw [List.takeWhile_append_of_pos htaken]
    cases more with
    | nil => exact List.append_nil _
    | cons x more =>
        rw [List.takeWhile_cons, hmore x rfl, if_neg Bool.false_ne_true, List.append_nil]
  rw [span, h, htake]

theorem skipWhile_eq {p : Char → Bool} (h : c.rest = taken ++ more)
    (htaken : ∀ x ∈ taken, p x = true) (hmore : ∀ x ∈ more.head?, p x = false) :
    c.skipWhile p = c.past taken :=
  congrArg Prod.snd (span_eq h htaken hmore)

/-- Nothing is skipped where the next character does not satisfy the condition. -/
theorem skipWhile_of_head {p : Char → Bool} (h : ∀ x ∈ c.rest.head?, p x = false) :
    c.skipWhile p = c :=
  skipWhile_eq (show c.rest = [] ++ c.rest from rfl) (List.forall_mem_nil _) h

theorem at?_cons {x : Char} {rest : List Char} (h : c.rest = x :: rest) (y : Char) :
    c.at? y = (x == y) := by
  rw [at?, h, List.head?_cons]
  rfl

theorem lineBreak_of_head (h : ∀ x ∈ c.rest.head?, isBreak x = false) : c.lineBreak = [] := by
  rw [lineBreak.eq_def]
  split
  · rename_i heq
    rw [heq] at h
    exact nomatch h '\r' rfl
  · rename_i x rest _ heq
    rw [heq] at h
    rw [h x rfl, if_neg Bool.false_ne_true]
  · rfl

theorem lineBreak_of_break {x : Char} {rest : List Char} (h : c.rest = x :: rest)
    (hbreak : isBreak x = true) (hreturn : x ≠ '\r') : c.lineBreak = [x] := by
  rw [lineBreak.eq_def]
  split
  · rename_i heq
    rw [h] at heq
    exact absurd (List.cons.inj heq).1 hreturn
  · rename_i heq
    rw [h] at heq
    rw [← (List.cons.inj heq).1, if_pos hbreak]
  · rename_i heq
    rw [h] at heq
    exact nomatch heq

theorem skipComment_of_head (h : ∀ x ∈ c.rest.head?, x ≠ '#') : c.skipComment = c := by
  rw [skipComment, at?]
  refine if_neg ?_
  rw [beq_iff_eq]
  exact fun hmark => h '#' hmark rfl

/-- Away from the start of a line nothing marks a document. -/
theorem atMarker_of_column (h : 0 < c.mark.column) (x : Char) : c.atMarker x = false := by
  rw [atMarker, beq_eq_false_iff_ne.mpr (Nat.pos_iff_ne_zero.mp h), Bool.false_and]

theorem atDocumentMark_of_column (h : 0 < c.mark.column) : c.atDocumentMark = false := by
  rw [atDocumentMark, atMarker_of_column h, atMarker_of_column h, Bool.or_false]

end Cursor

end ReleaseGate.Yaml
