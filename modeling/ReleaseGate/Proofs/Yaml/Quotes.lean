import Mathlib.Algebra.Group.Nat.Defs
import ReleaseGate.Proofs.Yaml.Words
import ReleaseGate.Yaml.Token.Quoted

/-!
# Quotes — texts that are written between quotes

A quoted text is read character by character, and its gaps as a whole. Between single quotes a gap
is made of spaces or of breaks, never of both, so folding leaves it alone, and what the writer puts
behind breaks is dropped. Between double quotes all that is not written as itself is an escape, and
reading the escape gives it back.
-/

namespace ReleaseGate.Yaml

open Written (spaces)

namespace Written

/-! ## Characters side by side -/

theorem adjacent_cons {p q : Char → Bool} {a b : Char} {rest : List Char}
    (h : adjacent p q (a :: b :: rest) = false) :
    (p a = true → q b = false) ∧ adjacent p q (b :: rest) = false := by
  rw [adjacent, Bool.or_eq_false_iff] at h
  refine ⟨fun ha => ?_, h.2⟩
  rw [ha, Bool.true_and] at h
  exact h.1

/-- What holds of a text side by side holds of its end. -/
theorem adjacent_append {p q : Char → Bool} (a : List Char) {b : List Char}
    (h : adjacent p q (a ++ b) = false) : adjacent p q b = false := by
  induction a with
  | nil => exact h
  | cons x a ih =>
      cases hab : a ++ b with
      | nil =>
          rw [(List.append_eq_nil_iff.mp hab).2]
          rfl
      | cons y rest =>
          rw [List.cons_append, hab] at h
          exact ih (hab ▸ (adjacent_cons h).2)

/-- A run of characters of two kinds is of the kind of its first one. -/
theorem forall_of_adjacent {p q : Char → Bool} {run rest : List Char}
    (hrun : ∀ y ∈ run, p y = true ∨ q y = true) :
    ∀ {x : Char}, p x = true → adjacent p q (x :: (run ++ rest)) = false →
      ∀ y ∈ run, p y = true := by
  induction run with
  | nil => exact fun _ _ => List.forall_mem_nil _
  | cons y run ih =>
      intro x hx h
      obtain ⟨hy, hrest⟩ := List.forall_mem_cons.mp hrun
      obtain ⟨hnot, hmore⟩ := adjacent_cons h
      have hfirst : p y = true := hy.resolve_right (Bool.eq_false_iff.mp (hnot hx))
      exact List.forall_mem_cons.mpr ⟨hfirst, ih hrest hfirst hmore⟩

/-! ## Written between single quotes -/

/-- A text whose gaps can be told from what is put behind line breaks. -/
structure Single (text : List Char) : Prop where
  printable : ∀ x ∈ text, isPrintable x = true
  noFeed : ∀ x ∈ text, x ≠ '\n'
  noSpaceAbove : adjacent (· == ' ') isBreak text = false
  noSpaceBelow : adjacent isBreak (· == ' ') text = false

theorem Single.of_append {a b : List Char} (h : Single (a ++ b)) : Single b :=
  ⟨fun x hx => h.printable x (List.mem_append_right a hx),
    fun x hx => h.noFeed x (List.mem_append_right a hx), adjacent_append a h.noSpaceAbove,
    adjacent_append a h.noSpaceBelow⟩

/-- A printable character of a gap is a space or a line break. -/
theorem space_or_break {x : Char} (hx : isPrintable x = true) (hgap : isGap x = true) :
    (x == ' ') = true ∨ isBreak x = true := by
  rw [isGap, isBlank, Bool.or_eq_true, Bool.or_eq_true] at hgap
  obtain (h | h) | h := hgap
  · exact .inl h
  · exact absurd (beq_iff_eq.mp h) (ne_tab_of_isPrintable hx)
  · exact .inr h

/-- The gap at the front of a text is made of spaces or of breaks. -/
theorem Single.gap {x : Char} {g t : List Char} (h : Single (x :: (g ++ t)))
    (hg : ∀ y ∈ x :: g, isGap y = true) :
    (∀ y ∈ x :: g, y = ' ') ∨ ∀ y ∈ x :: g, isBreak y = true := by
  have hkind : ∀ y ∈ x :: g, (y == ' ') = true ∨ isBreak y = true := fun y hy =>
    space_or_break (h.printable y (List.mem_append_left t hy)) (hg y hy)
  obtain ⟨hx, hrest⟩ := List.forall_mem_cons.mp hkind
  obtain hspace | hbreak := hx
  · have hall := forall_of_adjacent hrest hspace h.noSpaceAbove
    exact .inl (List.forall_mem_cons.mpr ⟨beq_iff_eq.mp hspace,
      fun y hy => beq_iff_eq.mp (hall y hy)⟩)
  · have hall := forall_of_adjacent (fun y hy => (hrest y hy).symm) hbreak h.noSpaceBelow
    exact .inr (List.forall_mem_cons.mpr ⟨hbreak, hall⟩)

/-- A character that is no break is written as it is, and a quote twice. -/
theorem single_char {indent : Nat} {x : Char} (hx : isBreak x = false) (t : List Char) :
    single indent false (x :: t)
      = (if x == '\'' then ['\'', '\''] else [x]) ++ single indent false t := by
  rw [single, hx, if_neg Bool.false_ne_true, if_neg Bool.false_ne_true, List.nil_append]

/-- The first character of a gap is written as it is. -/
theorem exists_single_gap (indent : Nat) {x : Char} (hx : isGap x = true) (t : List Char) :
    ∃ rest, single indent false (x :: t) = x :: rest := by
  by_cases hbreak : isBreak x = true
  · rw [single, if_pos hbreak]
    exact ⟨_, rfl⟩
  · have hquote : x ≠ '\'' := by
      rintro rfl
      exact nomatch hx
    rw [single_char (Bool.eq_false_iff.mpr hbreak), if_neg (mt beq_iff_eq.mp hquote)]
    exact ⟨_, rfl⟩

theorem length_le_single (indent : Nat) (behindBreak : Bool) (text : List Char) :
    text.length ≤ (single indent behindBreak text).length := by
  induction text generalizing behindBreak with
  | nil => exact Nat.zero_le _
  | cons x text ih =>
      rw [single]
      by_cases hbreak : isBreak x = true
      · rw [if_pos hbreak, List.length_cons, List.length_cons]
        exact Nat.succ_le_succ (ih true)
      · have hx : 1 ≤ (if x == '\'' then ['\'', '\''] else [x]).length := by
          split
          · exact Nat.le_succ 1
          · exact Nat.le_refl 1
        have hrest := ih false
        rw [if_neg hbreak, List.length_append, List.length_append, List.length_cons]
        omega

/-- Without a gap at its front a text is written without one, up to the quote behind it. -/
theorem isGap_head_single (indent : Nat) (rest : List Char) {t : List Char}
    (ht : ∀ y ∈ t.head?, isGap y = false) :
    ∀ y ∈ (single indent false t ++ '\'' :: rest).head?, isGap y = false := by
  cases t with
  | nil => exact forall_head rfl
  | cons x t =>
      rw [single_char (isBreak_eq_false_of_isGap (ht x rfl))]
      by_cases hquote : x = '\''
      · rw [hquote]
        exact forall_head rfl
      · rw [if_neg (mt beq_iff_eq.mp hquote)]
        exact forall_head (ht x rfl)

theorem single_spaces {indent : Nat} {g : List Char} (hg : ∀ y ∈ g, y = ' ') (t : List Char) :
    single indent false (g ++ t) = g ++ single indent false t := by
  induction g with
  | nil => rfl
  | cons y g ih =>
      obtain ⟨hy, hrest⟩ := List.forall_mem_cons.mp hg
      rw [hy]
      show ' ' :: single indent false (g ++ t) = _
      rw [ih hrest]
      rfl

/-- Behind breaks the text goes on at the indentation. -/
theorem single_breaks {indent : Nat} {g : List Char} (hg : ∀ y ∈ g, isBreak y = true)
    {t : List Char} (ht : ∀ y ∈ t.head?, isBreak y = false) :
    single indent true (g ++ t) = g ++ (spaces indent ++ single indent false t) := by
  induction g with
  | nil =>
      cases t with
      | nil => exact (List.append_nil _).symm
      | cons y t =>
          rw [List.nil_append, List.nil_append, single, single, ht y rfl,
            if_neg Bool.false_ne_true, if_neg Bool.false_ne_true, if_pos rfl,
            if_neg Bool.false_ne_true, List.nil_append, List.append_assoc]
  | cons y g ih =>
      obtain ⟨hy, hrest⟩ := List.forall_mem_cons.mp hg
      rw [List.cons_append, single, if_pos hy, ih hrest]
      rfl

end Written

namespace Quoted

variable {start : Mark} {fuel : Nat} {c c' : Cursor} {text more : List Char}

/-! ## Steps between single quotes -/

theorem readSingle_close (hcolumn : 0 < c.mark.column) (hrest : c.rest = '\'' :: more)
    (hmore : ∀ x ∈ more.head?, x ≠ '\'') :
    readSingle start (fuel + 1) c = .ok ([], c.skip 1) := by
  rw [readSingle, Cursor.atDocumentMark_of_column hcolumn, if_neg Bool.false_ne_true]
  split
  · rename_i heq
    rw [hrest] at heq
    cases heq
  · rename_i heq
    rw [hrest] at heq
    exact absurd rfl (hmore '\'' (by rw [(List.cons.inj heq).2]; rfl))
  · rfl
  · rename_i hnot heq
    rw [hrest] at heq
    exact absurd (List.cons.inj heq).1.symm hnot

theorem readSingle_quote (hcolumn : 0 < c.mark.column) (hrest : c.rest = '\'' :: '\'' :: more)
    (hread : readSingle start fuel (c.skip 2) = .ok (text, c')) :
    readSingle start (fuel + 1) c = .ok ('\'' :: text, c') := by
  rw [readSingle, Cursor.atDocumentMark_of_column hcolumn, if_neg Bool.false_ne_true, hrest]
  dsimp only
  rw [hread]
  rfl

/-- What is no quote is read by itself, and a gap as a whole. -/
theorem readSingle_step {x : Char} {part : List Char} {next : Cursor} (hcolumn : 0 < c.mark.column)
    (hrest : c.rest = x :: more) (hquote : x ≠ '\'')
    (hpart : (if isGap x then (foldGap (c.span isGap).1, (c.span isGap).2) else ([x], c.skip 1))
      = (part, next))
    (hread : readSingle start fuel next = .ok (text, c')) :
    readSingle start (fuel + 1) c = .ok (part ++ text, c') := by
  rw [readSingle, Cursor.atDocumentMark_of_column hcolumn, if_neg Bool.false_ne_true]
  split
  · rename_i heq
    rw [hrest] at heq
    cases heq
  · rename_i heq
    rw [hrest] at heq
    exact absurd (List.cons.inj heq).1 hquote
  · rename_i heq
    rw [hrest] at heq
    exact absurd (List.cons.inj heq).1 hquote
  · rename_i heq
    rw [hrest] at heq
    rw [← (List.cons.inj heq).1]
    by_cases hgap : isGap x = true
    · rw [if_pos hgap] at hpart ⊢
      obtain ⟨rfl, rfl⟩ := Prod.mk.inj hpart
      dsimp only
      rw [hread]
      rfl
    · rw [if_neg hgap] at hpart ⊢
      obtain ⟨rfl, rfl⟩ := Prod.mk.inj hpart
      rw [hread]
      rfl

theorem readSingle_gap {x : Char} {gap : List Char} {next : Cursor}
    (hcolumn : 0 < c.mark.column) (hrest : c.rest = x :: more) (hx : isGap x = true)
    (hspan : c.span isGap = (gap, next)) (hread : readSingle start fuel next = .ok (text, c')) :
    readSingle start (fuel + 1) c = .ok (foldGap gap ++ text, c') := by
  refine readSingle_step hcolumn hrest ?_ ?_ hread
  · rintro rfl
    cases hx
  · rw [if_pos hx, hspan]

theorem readSingle_char {x : Char} (hcolumn : 0 < c.mark.column) (hrest : c.rest = x :: more)
    (hx : isGap x = false) (hquote : x ≠ '\'')
    (hread : readSingle start fuel (c.skip 1) = .ok (text, c')) :
    readSingle start (fuel + 1) c = .ok (x :: text, c') :=
  readSingle_step hcolumn hrest hquote (if_neg (Bool.eq_false_iff.mp hx)) hread

/-! ## Texts between single quotes -/

/-- Without line feeds breaks are not folded. -/
theorem foldBreaks_of_no_feed {breaks : List Char} (h : ∀ x ∈ breaks, x ≠ '\n') :
    foldBreaks breaks = breaks := by
  rw [foldBreaks.eq_def]
  split
  · rfl
  · exact absurd rfl (h '\n' List.mem_cons_self)
  · exact absurd rfl (h '\n' List.mem_cons_self)
  · rfl

/-- The gap at the front of a text is read back, and reading stands behind it on a line. -/
theorem span_single {indent : Nat} {x : Char} {g t rest : List Char}
    (htext : Written.Single (x :: (g ++ t))) (hg : ∀ y ∈ x :: g, isGap y = true)
    (ht : ∀ y ∈ t.head?, isGap y = false) (hindent : 0 < indent) (hcolumn : 0 < c.mark.column)
    (hrest : c.rest = Written.single indent false (x :: (g ++ t)) ++ '\'' :: rest) :
    ∃ gap, c.span isGap = (gap, c.past gap) ∧ foldGap gap = x :: g
      ∧ 0 < (c.past gap).mark.column
      ∧ (c.past gap).rest = Written.single indent false t ++ '\'' :: rest := by
  have hbehind := Written.isGap_head_single indent rest ht
  obtain hspace | hbreak := htext.gap hg
  · have hwritten : c.rest = (x :: g) ++ (Written.single indent false t ++ '\'' :: rest) := by
      rw [hrest, ← List.cons_append, Written.single_spaces hspace, List.append_assoc]
    have hnobreak : ∀ y ∈ x :: g, isBreak y = false := fun y hy => by rw [hspace y hy]; rfl
    refine ⟨x :: g, Cursor.span_eq hwritten hg hbehind, foldGap_of_no_break hnobreak, ?_,
      Cursor.past_rest hwritten⟩
    rw [Cursor.past_column hnobreak]
    exact Nat.lt_add_right _ hcolumn
  · have hwritten : c.rest = (x :: g ++ spaces indent)
        ++ (Written.single indent false t ++ '\'' :: rest) := by
      have hx : isBreak x = true := hbreak x List.mem_cons_self
      rw [hrest, Written.single, if_pos hx,
        Written.single_breaks (fun y hy => hbreak y (List.mem_cons_of_mem _ hy))
          fun y hy => isBreak_eq_false_of_isGap (ht y hy)]
      simp only [List.append_assoc, List.cons_append]
    have hprintable : ∀ y ∈ x :: g, isPrintable y = true := fun y hy =>
      htext.printable y (List.mem_append_left t hy)
    have hgap : ∀ y ∈ x :: g ++ spaces indent, isGap y = true :=
      List.forall_mem_append.mpr ⟨hg, forall_mem_spaces rfl⟩
    refine ⟨x :: g ++ spaces indent, Cursor.span_eq hwritten hgap hbehind, ?_, ?_,
      Cursor.past_rest hwritten⟩
    · have hfeed : ∀ y ∈ x :: g, y ≠ '\n' := fun y hy => htext.noFeed y (List.mem_append_left t hy)
      rw [foldGap, breaksOf_breaks hprintable hbreak]
      exact foldBreaks_of_no_feed hfeed
    · show 0 < (c.mark.past (x :: g ++ spaces indent)).column
      rw [Mark.past_append fun y hy => Written.ne_return_of_isPrintable (hprintable y hy),
        Mark.past_of_no_break (forall_mem_spaces rfl), length_spaces]
      exact Nat.lt_add_left _ hindent

/-- A text is read back up to the quote at its end. -/
theorem readSingle_text {indent : Nat} (hindent : 0 < indent)
    (hmore : ∀ x ∈ more.head?, x ≠ '\'') : ∀ {fuel : Nat} {text : List Char} {c : Cursor},
      Written.Single text → text.length ≤ fuel → 0 < c.mark.column →
      c.rest = Written.single indent false text ++ '\'' :: more →
      ∃ c', readSingle start (fuel + 1) c = .ok (text, c') ∧ c'.rest = more := by
  intro fuel
  induction fuel with
  | zero =>
      intro text c htext hlength hcolumn hrest
      rw [List.length_eq_zero_iff.mp (Nat.le_zero.mp hlength)] at hrest ⊢
      exact ⟨_, readSingle_close hcolumn hrest hmore, Cursor.skip_one_rest hrest⟩
  | succ fuel ih =>
      intro text c htext hlength hcolumn hrest
      cases text with
      | nil => exact ⟨_, readSingle_close hcolumn hrest hmore, Cursor.skip_one_rest hrest⟩
      | cons x text =>
          rw [List.length_cons, Nat.add_le_add_iff_right] at hlength
          by_cases hgap : isGap x = true
          · -- All of the gap is taken at once, so that the text goes on behind it.
            obtain ⟨g, t, rfl, hg, ht⟩ := exists_span isGap text
            obtain ⟨gap, hspan, hfold, hcolumn', hrest'⟩ := span_single htext
              (List.forall_mem_cons.mpr ⟨hgap, hg⟩) ht hindent hcolumn hrest
            rw [List.length_append] at hlength
            obtain ⟨c', hread, hc'⟩ := ih (htext.of_append (a := x :: g)) (by omega) hcolumn' hrest'
            obtain ⟨rest, hfirst⟩ := Written.exists_single_gap indent hgap (g ++ t)
            rw [hfirst] at hrest
            refine ⟨c', ?_, hc'⟩
            rw [readSingle_gap hcolumn hrest hgap hspan hread, hfold, List.cons_append]
          have hgap : isGap x = false := Bool.not_eq_true _ ▸ hgap
          have hbreak := isBreak_eq_false_of_isGap hgap
          have htail : Written.Single text := htext.of_append (a := [x])
          rw [Written.single_char hbreak] at hrest
          by_cases hquote : x = '\''
          · rw [hquote] at hrest ⊢
            obtain ⟨hbehind, hat⟩ := Cursor.skip_two rfl rfl hrest
            obtain ⟨c', hread, hc'⟩ := ih htail hlength (by rw [hat]; exact Nat.succ_pos _) hbehind
            exact ⟨c', readSingle_quote hcolumn hrest hread, hc'⟩
          · rw [if_neg (mt beq_iff_eq.mp hquote)] at hrest
            obtain ⟨c', hread, hc'⟩ := ih htail hlength
              (by rw [Cursor.skip_one_column hrest hbreak]; omega) (Cursor.skip_one_rest hrest)
            exact ⟨c', readSingle_char hcolumn hrest hgap hquote hread, hc'⟩

/-- A text that may be written between single quotes is read back from them. -/
theorem read_single {indent : Nat} (hindent : 0 < indent) (htext : Written.singleAllowed text = true)
    (hfeed : '\n' ∉ text) (hmore : ∀ x ∈ more.head?, x ≠ '\'')
    (hrest : c.rest = '\'' :: (Written.single indent false text ++ '\'' :: more)) :
    ∃ c', read false c = .ok (text, c') ∧ c'.rest = more := by
  have hsingle : Written.Single text := by
    rw [Written.singleAllowed, Bool.and_eq_true, Bool.not_eq_true'] at htext
    have hclean := htext.1
    rw [Written.isClean, Bool.and_eq_true, Bool.not_eq_true'] at hclean
    exact ⟨Written.isPrintable_of_isClean htext.1, fun x hx hfeed' => hfeed (hfeed' ▸ hx), hclean.2,
      htext.2⟩
  have hlength : text.length ≤ c.rest.length := by
    have := Written.length_le_single indent false text
    rw [hrest, List.length_cons, List.length_append]
    omega
  exact readSingle_text hindent hmore hsingle hlength
    (by rw [Cursor.skip_one_column hrest rfl]; exact Nat.succ_pos _) (Cursor.skip_one_rest hrest)

/-! ## Codes -/

theorem hexNumber?_append (a b : List Char) (n : Nat) : ∀ value : Nat,
    hexNumber? value (a.length + n) (a ++ b)
      = (hexNumber? value a.length a).bind fun value => hexNumber? value n b := by
  induction a with
  | nil =>
      intro value
      rw [List.length_nil, Nat.zero_add, List.nil_append, hexNumber?, Option.bind_some]
  | cons x a ih =>
      intro value
      rw [List.length_cons, Nat.succ_add, List.cons_append, hexNumber?, hexNumber?]
      cases hexValue? x with
      | none => rfl
      | some digit => exact ih _

theorem hexNumber?_zeros (n : Nat) : hexNumber? 0 n (List.replicate n '0') = some 0 := by
  induction n with
  | zero => rfl
  | succ n ih => exact ih

theorem hexValue?_digitChar : ∀ d < 16, hexValue? (Nat.digitChar d).toUpper = some d := by
  decide

/-- The digits of a number in base sixteen have its value. -/
theorem hexNumber?_toDigits (n : Nat) :
    hexNumber? 0 (Nat.toDigits 16 n).length ((Nat.toDigits 16 n).map Char.toUpper) = some n := by
  induction n using Nat.strongRecOn with
  | ind n ih =>
      by_cases hn : n < 16
      · rw [Nat.toDigits_of_lt_base hn]
        show (hexValue? (Nat.digitChar n).toUpper).bind (fun d => some (0 * 16 + d)) = some n
        rw [hexValue?_digitChar n hn, Option.bind_some, Nat.zero_mul, Nat.zero_add]
      · have hdigits := Nat.toDigits_of_base_le (by decide : 1 < 16) (Nat.le_of_not_lt hn)
        have hrest := ih (n / 16) (by omega)
        have happend := hexNumber?_append ((Nat.toDigits 16 (n / 16)).map Char.toUpper)
          [(Nat.digitChar (n % 16)).toUpper] 1 0
        rw [List.length_map, hrest, Option.bind_some] at happend
        rw [hdigits, List.map_append, List.length_append, List.map_singleton, List.length_singleton,
          happend]
        show (hexValue? (Nat.digitChar (n % 16)).toUpper).bind
          (fun d => some (n / 16 * 16 + d)) = some n
        rw [hexValue?_digitChar (n % 16) (by omega), Option.bind_some]
        exact congrArg some (by omega)

theorem length_hexDigits {count n : Nat} (hcount : 0 < count) (hn : n < 16 ^ count) :
    (Written.hexDigits count n).length = count := by
  have hlength := (Nat.length_toDigits_le_iff (by decide : 1 < 16) hcount).mpr hn
  rw [Written.hexDigits, List.length_append, List.length_replicate, List.length_map]
  omega

/-- What holds of every digit holds of the digits of a number. -/
theorem forall_mem_hexDigits {P : Char → Prop} (h : ∀ d < 16, P (Nat.digitChar d).toUpper)
    (count n : Nat) : ∀ y ∈ Written.hexDigits count n, P y := by
  have hdigits : ∀ y ∈ (Nat.toDigits 16 n).map Char.toUpper, P y := by
    induction n using Nat.strongRecOn with
    | ind n ih =>
        by_cases hn : n < 16
        · rw [Nat.toDigits_of_lt_base hn]
          exact List.forall_mem_singleton.mpr (h n hn)
        · rw [Nat.toDigits_of_base_le (by decide : 1 < 16) (Nat.le_of_not_lt hn), List.map_append]
          exact List.forall_mem_append.mpr ⟨ih (n / 16) (by omega),
            List.forall_mem_singleton.mpr (h (n % 16) (by omega))⟩
  refine List.forall_mem_append.mpr ⟨fun y hy => ?_, hdigits⟩
  rw [List.eq_of_mem_replicate hy]
  exact h 0 (by decide)

theorem isBreak_of_mem_hexDigits (count n : Nat) :
    ∀ y ∈ Written.hexDigits count n, isBreak y = false :=
  forall_mem_hexDigits (by decide) count n

/-- A number that is small enough is read back from so many digits. -/
theorem hexNumber?_hexDigits {count n : Nat} (hcount : 0 < count) (hn : n < 16 ^ count)
    (more : List Char) : hexNumber? 0 count (Written.hexDigits count n ++ more) = some n := by
  have hlength := length_hexDigits hcount hn
  have hall := hexNumber?_append (Written.hexDigits count n) more 0 0
  rw [hlength, Nat.add_zero] at hall
  have hzeros := hexNumber?_append
    (List.replicate (count - ((Nat.toDigits 16 n).map Char.toUpper).length) '0')
    ((Nat.toDigits 16 n).map Char.toUpper) (Nat.toDigits 16 n).length 0
  rw [List.length_replicate, hexNumber?_zeros, Option.bind_some, hexNumber?_toDigits] at hzeros
  have hcountEq : count - ((Nat.toDigits 16 n).map Char.toUpper).length
      + (Nat.toDigits 16 n).length = count := by
    have := (Nat.length_toDigits_le_iff (by decide : 1 < 16) hcount).mpr hn
    rw [List.length_map]
    omega
  rw [hcountEq] at hzeros
  rw [hall, Written.hexDigits, hzeros]
  rfl

/-! ## Escapes -/

theorem readEscape_short {letter x : Char} (hrest : c.rest = '\\' :: letter :: more)
    (h : escapes.lookup letter = some x) : readEscape start c = .ok (x, c.skip 2) := by
  rw [readEscape, hrest]
  dsimp only
  rw [h]

theorem readEscape_code {letter x : Char} {length : Nat}
    (hrest : c.rest = '\\' :: letter :: more) (hnone : escapes.lookup letter = none)
    (hlength : codeLength letter = some length) (hx : hexNumber? 0 length more = some x.toNat) :
    readEscape start c = .ok (x, (c.skip 2).skip length) := by
  have hcode : isCharCode x.toNat = true := by
    have hvalid : x.toNat.isValidChar := x.valid
    rw [isCharCode, Bool.or_eq_true, Bool.and_eq_true, decide_eq_true_iff, decide_eq_true_iff,
      decide_eq_true_iff]
    exact hvalid.imp id fun h => by omega
  rw [readEscape, hrest]
  dsimp only
  rw [hnone, hlength]
  dsimp only
  rw [hx]
  dsimp only
  rw [if_pos hcode, Char.ofNat_toNat]

theorem mem_of_lookup {α β : Type} [BEq α] [LawfulBEq α] {l : List (α × β)} {a : α} {b : β}
    (h : l.lookup a = some b) : (a, b) ∈ l := by
  obtain ⟨before, after, hsplit, -⟩ := List.lookup_eq_some_iff.mp h
  exact hsplit ▸ List.mem_append_right before List.mem_cons_self

/-- Every escape of a character of its own is read. -/
theorem lookup_of_shortEscapes {x letter : Char}
    (h : Written.shortEscapes.lookup x = some letter) :
    escapes.lookup letter = some x ∧ isBreak letter = false := by
  have hall : ∀ e ∈ Written.shortEscapes, escapes.lookup e.2 = some e.1 ∧ isBreak e.2 = false := by
    decide
  exact hall (x, letter) (mem_of_lookup h)

/-- The codes that are written are read. -/
theorem exists_codeEscape (x : Char) :
    ∃ letter length, 0 < length ∧ x.toNat < 16 ^ length
      ∧ Written.codeEscape x = letter :: Written.hexDigits length x.toNat
      ∧ escapes.lookup letter = none ∧ codeLength letter = some length
      ∧ isBreak letter = false := by
  rw [Written.codeEscape]
  by_cases hbyte : x.toNat ≤ 0xFF
  · rw [if_pos hbyte]
    exact ⟨'x', 2, by decide, by omega, rfl, by decide, by decide, by decide⟩
  rw [if_neg hbyte]
  by_cases hword : x.toNat ≤ 0xFFFF
  · rw [if_pos hword]
    exact ⟨'u', 4, by decide, by omega, rfl, by decide, by decide, by decide⟩
  rw [if_neg hword]
  have hvalid : x.toNat.isValidChar := x.valid
  have hbound : x.toNat < 16 ^ 8 := by
    obtain h | h := hvalid
    · omega
    · omega
  exact ⟨'U', 8, by decide, hbound, rfl, by decide, by decide, by decide⟩

/-- Is a character written between double quotes as it is? -/
def isBare (x : Char) : Bool :=
  isPrintable x && !isBreak x && x != '"' && x != '\\'

theorem doubleChar_of_bare {x : Char} (hx : isBare x = true) : Written.doubleChar x = [x] :=
  if_pos hx

theorem doubleChar_of_not_bare {x : Char} (hx : isBare x = false) :
    Written.doubleChar x = match Written.shortEscapes.lookup x with
      | some letter => ['\\', letter]
      | none => '\\' :: Written.codeEscape x :=
  if_neg (Bool.eq_false_iff.mp hx)

/-- The escape of a character is read back as the character. -/
theorem exists_readEscape (start : Mark) {x : Char} (hx : isBare x = false)
    (hrest : c.rest = Written.doubleChar x ++ more) :
    ∃ letter rest c', c.rest = '\\' :: letter :: rest ∧ isBreak letter = false
      ∧ readEscape start c = .ok (x, c') ∧ c'.rest = more
      ∧ c.mark.column ≤ c'.mark.column := by
  rw [doubleChar_of_not_bare hx] at hrest
  cases hshort : Written.shortEscapes.lookup x with
  | some letter =>
      rw [hshort] at hrest
      obtain ⟨hlookup, hbreak⟩ := lookup_of_shortEscapes hshort
      obtain ⟨hrest', hcolumn⟩ := Cursor.skip_two rfl hbreak hrest
      exact ⟨letter, more, c.skip 2, hrest, hbreak, readEscape_short hrest hlookup, hrest',
        by omega⟩
  | none =>
      rw [hshort] at hrest
      obtain ⟨letter, length, hpos, hbound, hcode, hnone, hlength, hbreak⟩ := exists_codeEscape x
      dsimp only at hrest
      rw [hcode, List.cons_append, List.cons_append] at hrest
      have hnumber := hexNumber?_hexDigits hpos hbound more
      obtain ⟨hrest', hcolumn⟩ := Cursor.skip_two rfl hbreak hrest
      have hskip := Cursor.skip_eq hrest'
      rw [length_hexDigits hpos hbound] at hskip
      refine ⟨letter, _, _, hrest, hbreak, readEscape_code hrest hnone hlength hnumber, ?_, ?_⟩
      · rw [hskip]
        exact Cursor.past_rest hrest'
      · rw [hskip, Cursor.past_column (isBreak_of_mem_hexDigits length x.toNat)]
        omega

/-! ## Steps between double quotes -/

theorem readDouble_close (hcolumn : 0 < c.mark.column) (hrest : c.rest = '"' :: more) :
    readDouble start (fuel + 1) c = .ok ([], c.skip 1) := by
  rw [readDouble, Cursor.atDocumentMark_of_column hcolumn, if_neg Bool.false_ne_true, hrest]
  rfl

theorem readDouble_escape {letter x : Char} {next : Cursor} (hcolumn : 0 < c.mark.column)
    (hrest : c.rest = '\\' :: letter :: more) (hletter : isBreak letter = false)
    (hescape : readEscape start c = .ok (x, next))
    (hread : readDouble start fuel next = .ok (text, c')) :
    readDouble start (fuel + 1) c = .ok (x :: text, c') := by
  have hnobreak : (!(letter :: more).isEmpty && breakOrEnd (letter :: more)) = false := by
    rw [breakOrEnd, hletter, Bool.and_false]
  rw [readDouble, Cursor.atDocumentMark_of_column hcolumn, if_neg Bool.false_ne_true, hrest]
  show (if !(letter :: more).isEmpty && breakOrEnd (letter :: more) then _ else _
    : Except Fault (List Char × Cursor)) = _
  rw [hnobreak, if_neg Bool.false_ne_true, hescape]
  show (readDouble start fuel next).bind _ = _
  rw [hread]
  rfl

/-- What is neither a quote nor a backslash is read by itself, and a gap as a whole. -/
theorem readDouble_step {x : Char} {part : List Char} {next : Cursor} (hcolumn : 0 < c.mark.column)
    (hrest : c.rest = x :: more) (hquote : x ≠ '"') (hescape : x ≠ '\\')
    (hpart : (if isGap x then (foldGap (c.span isGap).1, (c.span isGap).2) else ([x], c.skip 1))
      = (part, next))
    (hread : readDouble start fuel next = .ok (text, c')) :
    readDouble start (fuel + 1) c = .ok (part ++ text, c') := by
  rw [readDouble, Cursor.atDocumentMark_of_column hcolumn, if_neg Bool.false_ne_true]
  split
  · rename_i heq
    rw [hrest] at heq
    cases heq
  · rename_i heq
    rw [hrest] at heq
    exact absurd (List.cons.inj heq).1 hquote
  · rename_i heq
    rw [hrest] at heq
    exact absurd (List.cons.inj heq).1 hescape
  · rename_i heq
    rw [hrest] at heq
    rw [← (List.cons.inj heq).1]
    by_cases hgap : isGap x = true
    · rw [if_pos hgap] at hpart ⊢
      obtain ⟨rfl, rfl⟩ := Prod.mk.inj hpart
      dsimp only
      rw [hread]
      rfl
    · rw [if_neg hgap] at hpart ⊢
      obtain ⟨rfl, rfl⟩ := Prod.mk.inj hpart
      rw [hread]
      rfl

theorem readDouble_gap {x : Char} {gap : List Char} {next : Cursor}
    (hcolumn : 0 < c.mark.column) (hrest : c.rest = x :: more) (hx : isGap x = true)
    (hspan : c.span isGap = (gap, next)) (hread : readDouble start fuel next = .ok (text, c')) :
    readDouble start (fuel + 1) c = .ok (foldGap gap ++ text, c') := by
  refine readDouble_step hcolumn hrest ?_ ?_ ?_ hread
  · rintro rfl
    cases hx
  · rintro rfl
    cases hx
  · rw [if_pos hx, hspan]

theorem readDouble_char {x : Char} (hcolumn : 0 < c.mark.column) (hrest : c.rest = x :: more)
    (hx : isGap x = false) (hbare : isBare x = true)
    (hread : readDouble start fuel (c.skip 1) = .ok (text, c')) :
    readDouble start (fuel + 1) c = .ok (x :: text, c') := by
  rw [isBare, Bool.and_eq_true, Bool.and_eq_true, bne_iff_ne, bne_iff_ne] at hbare
  exact readDouble_step hcolumn hrest hbare.1.2 hbare.2 (if_neg (Bool.eq_false_iff.mp hx)) hread

/-! ## Texts between double quotes -/

/-- A character that is written as it is stands in a gap only as a space. -/
theorem eq_space_of_bare {x : Char} (hbare : isBare x = true) (hgap : isGap x = true) : x = ' ' := by
  rw [isBare, Bool.and_eq_true, Bool.and_eq_true, Bool.and_eq_true, Bool.not_eq_true'] at hbare
  obtain hspace | hbreak := Written.space_or_break hbare.1.1.1 hgap
  · exact beq_iff_eq.mp hspace
  · rw [hbare.1.1.2] at hbreak
    exact nomatch hbreak

/-- Without a space at its front a text is written without a gap, up to the quote behind it. -/
theorem isGap_head_double {t rest : List Char} (ht : ∀ y ∈ t.head?, y ≠ ' ') :
    ∀ y ∈ (t.flatMap Written.doubleChar ++ '"' :: rest).head?, isGap y = false := by
  cases t with
  | nil => exact forall_head rfl
  | cons x t =>
      rw [List.flatMap_cons, List.append_assoc]
      cases hbare : isBare x with
      | true =>
          rw [doubleChar_of_bare hbare]
          refine forall_head (Bool.eq_false_iff.mpr fun hgap => ht x rfl ?_)
          exact eq_space_of_bare hbare hgap
      | false =>
          obtain ⟨letter, tail, c', hwritten, -⟩ := exists_readEscape ⟨0, 0⟩
            (c := ⟨Written.doubleChar x ++ (t.flatMap Written.doubleChar ++ '"' :: rest), ⟨0, 0⟩, 0⟩)
            hbare rfl
          have hwritten : Written.doubleChar x ++ (t.flatMap Written.doubleChar ++ '"' :: rest)
              = '\\' :: letter :: tail := hwritten
          rw [hwritten]
          exact forall_head rfl

theorem flatMap_spaces {g : List Char} (hg : ∀ y ∈ g, y = ' ') :
    g.flatMap Written.doubleChar = g := by
  induction g with
  | nil => rfl
  | cons y g ih =>
      obtain ⟨hy, hrest⟩ := List.forall_mem_cons.mp hg
      rw [List.flatMap_cons, ih hrest, hy]
      rfl

/-- Spaces at the front of a text are read back as they are. -/
theorem span_double {g t : List Char} (hg : ∀ y ∈ g, y = ' ') (ht : ∀ y ∈ t.head?, y ≠ ' ')
    (hrest : c.rest = (g ++ t).flatMap Written.doubleChar ++ '"' :: more) :
    c.span isGap = (g, c.past g) ∧ foldGap g = g ∧ c.mark.column ≤ (c.past g).mark.column
      ∧ (c.past g).rest = t.flatMap Written.doubleChar ++ '"' :: more := by
  have hwritten : c.rest = g ++ (t.flatMap Written.doubleChar ++ '"' :: more) := by
    rw [hrest, List.flatMap_append, flatMap_spaces hg, List.append_assoc]
  have hgap : ∀ y ∈ g, isGap y = true := fun y hy => by rw [hg y hy]; rfl
  have hnobreak : ∀ y ∈ g, isBreak y = false := fun y hy => by rw [hg y hy]; rfl
  refine ⟨Cursor.span_eq hwritten hgap (isGap_head_double ht), foldGap_of_no_break hnobreak, ?_,
    Cursor.past_rest hwritten⟩
  rw [Cursor.past_column hnobreak]
  exact Nat.le_add_right _ _

/-- Every text is read back up to the quote at its end. -/
theorem readDouble_text : ∀ {fuel : Nat} {text : List Char} {c : Cursor},
    text.length ≤ fuel → 0 < c.mark.column →
    c.rest = text.flatMap Written.doubleChar ++ '"' :: more →
    ∃ c', readDouble start (fuel + 1) c = .ok (text, c') ∧ c'.rest = more := by
  intro fuel
  induction fuel with
  | zero =>
      intro text c hlength hcolumn hrest
      rw [List.length_eq_zero_iff.mp (Nat.le_zero.mp hlength)] at hrest ⊢
      exact ⟨_, readDouble_close hcolumn hrest, Cursor.skip_one_rest hrest⟩
  | succ fuel ih =>
      intro text c hlength hcolumn hrest
      cases text with
      | nil => exact ⟨_, readDouble_close hcolumn hrest, Cursor.skip_one_rest hrest⟩
      | cons x text =>
          rw [List.length_cons, Nat.add_le_add_iff_right] at hlength
          have hfirst := hrest
          rw [List.flatMap_cons, List.append_assoc] at hfirst
          cases hbare : isBare x with
          | false =>
              obtain ⟨letter, rest, next, hletter, hbreak, hescape, hrest', hcolumn'⟩ :=
                exists_readEscape start hbare hfirst
              obtain ⟨c', hread, hc'⟩ := ih hlength (Nat.lt_of_lt_of_le hcolumn hcolumn') hrest'
              exact ⟨c', readDouble_escape hcolumn hletter hbreak hescape hread, hc'⟩
          | true =>
              rw [doubleChar_of_bare hbare] at hfirst
              by_cases hgap : isGap x = true
              · -- All spaces are taken at once, so that the text goes on behind them.
                obtain ⟨g, t, rfl, hg, ht⟩ := exists_span (· == ' ') text
                have hspaces : ∀ y ∈ x :: g, y = ' ' := List.forall_mem_cons.mpr
                  ⟨eq_space_of_bare hbare hgap, fun y hy => beq_iff_eq.mp (hg y hy)⟩
                obtain ⟨hspan, hfold, hcolumn', hrest'⟩ := span_double (g := x :: g) hspaces
                  (fun y hy => beq_eq_false_iff_ne.mp (ht y hy)) hrest
                rw [List.length_append] at hlength
                obtain ⟨c', hread, hc'⟩ := ih (c := c.past (x :: g)) (by omega)
                  (Nat.lt_of_lt_of_le hcolumn hcolumn') hrest'
                refine ⟨c', ?_, hc'⟩
                rw [readDouble_gap hcolumn hfirst hgap hspan hread, hfold, List.cons_append]
              · have hgap : isGap x = false := Bool.eq_false_iff.mpr hgap
                obtain ⟨c', hread, hc'⟩ := ih (c := c.skip 1) hlength
                  (by rw [Cursor.skip_one_column hfirst (isBreak_eq_false_of_isGap hgap)]
                      exact Nat.succ_pos _)
                  (Cursor.skip_one_rest hfirst)
                exact ⟨c', readDouble_char hcolumn hfirst hgap hbare hread, hc'⟩

theorem length_le_double (text : List Char) :
    text.length ≤ (text.flatMap Written.doubleChar).length := by
  induction text with
  | nil => exact Nat.zero_le _
  | cons x text ih =>
      have hx : 1 ≤ (Written.doubleChar x).length := by
        cases hbare : isBare x with
        | true =>
            rw [doubleChar_of_bare hbare]
            exact Nat.le_refl 1
        | false =>
            rw [doubleChar_of_not_bare hbare]
            split
            · exact Nat.le_succ 1
            · exact Nat.succ_pos _
      rw [List.flatMap_cons, List.length_append, List.length_cons]
      omega

/-- Every text is read back from double quotes. -/
theorem read_double (hrest : c.rest = '"' :: (text.flatMap Written.doubleChar ++ '"' :: more)) :
    ∃ c', read true c = .ok (text, c') ∧ c'.rest = more := by
  have hlength : text.length ≤ c.rest.length := by
    have := length_le_double text
    rw [hrest, List.length_cons, List.length_append]
    omega
  exact readDouble_text hlength
    (by rw [Cursor.skip_one_column hrest rfl]; exact Nat.succ_pos _) (Cursor.skip_one_rest hrest)

end Quoted

end ReleaseGate.Yaml
