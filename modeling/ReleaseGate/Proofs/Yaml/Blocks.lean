import ReleaseGate.Proofs.Yaml.Quotes
import ReleaseGate.Yaml.Token.Block

/-!
# Blocks — texts that are written in indented lines

A text with line breaks is lines with breaks behind them, and so is its written form, with every line
indented. Reading takes a line, the break that ends it, and the empty lines behind that, and stands
then in the column of the next line. It ends where a line is indented less. The header says which of
the breaks at the end belong to the text.
-/

namespace ReleaseGate.Yaml

open Written (spaces)

namespace Written

/-- Line breaks that are read as they are written. -/
def AreBreaks (g : List Char) : Prop :=
  ∀ x ∈ g, isBreak x = true ∧ isPrintable x = true

/-- A text that begins with a line: its lines with the breaks between them, and the breaks at its
end. -/
inductive Lined : List Char → List Char → List Char → Prop where
  | last (line ending : List Char) : line ≠ [] → (∀ x ∈ line, isBreak x = false) → ending ≠ [] →
      AreBreaks ending → Lined (line ++ ending) line ending
  | cons (line g : List Char) {text body ending : List Char} : line ≠ [] →
      (∀ x ∈ line, isBreak x = false) → g ≠ [] → AreBreaks g → Lined text body ending →
      Lined (line ++ (g ++ text)) (line ++ (g ++ body)) ending

theorem Lined.eq_append {text body ending : List Char} (h : Lined text body ending) :
    text = body ++ ending := by
  induction h with
  | last => rfl
  | cons line g _ _ _ _ _ ih => rw [ih, List.append_assoc, List.append_assoc]

theorem Lined.exists_cons {text body ending : List Char} (h : Lined text body ending) :
    ∃ x rest, text = x :: rest ∧ isBreak x = false := by
  cases h with
  | last line _ hne hline _ _ | cons line _ hne hline _ _ _ =>
      obtain ⟨x, line', rfl⟩ := List.exists_cons_of_ne_nil hne
      exact ⟨x, _, rfl, hline x List.mem_cons_self⟩

theorem Lined.ending_ne_nil {text body ending : List Char} (h : Lined text body ending) :
    ending ≠ [] := by
  induction h with
  | last _ _ _ _ hne _ => exact hne
  | cons _ _ _ _ _ _ _ ih => exact ih

theorem Lined.areBreaks {text body ending : List Char} (h : Lined text body ending) :
    AreBreaks ending := by
  induction h with
  | last _ _ _ _ _ hbreaks => exact hbreaks
  | cons _ _ _ _ _ _ _ ih => exact ih

/-- The breaks at the end stand behind a line. -/
theorem Lined.exists_body {text body ending : List Char} (h : Lined text body ending) :
    ∃ before last, body = before ++ [last] ∧ isBreak last = false := by
  induction h with
  | last line _ hne hline _ _ =>
      exact ⟨line.dropLast, line.getLast hne, (List.dropLast_concat_getLast hne).symm,
        hline _ (List.getLast_mem hne)⟩
  | cons line g _ _ _ _ _ ih =>
      obtain ⟨before, last, hbody, hlast⟩ := ih
      refine ⟨line ++ (g ++ before), last, ?_, hlast⟩
      rw [hbody, List.append_assoc, List.append_assoc]

/-! ## Lines as they are written -/

variable {indent : Nat}

theorem lines_breaks (indent : Nat) {g : List Char} (hg : AreBreaks g) (text : List Char) :
    lines indent true (g ++ text) = g ++ lines indent true text := by
  induction g with
  | nil => rfl
  | cons x g ih =>
      obtain ⟨hx, hrest⟩ := List.forall_mem_cons.mp hg
      rw [List.cons_append, lines, if_pos hx.1, ih hrest]
      rfl

theorem lines_areBreaks {g : List Char} (hg : AreBreaks g) : lines indent true g = g := by
  have h := lines_breaks indent hg []
  rwa [List.append_nil, lines, List.append_nil] at h

/-- Behind a line the first break is written as those behind it. -/
theorem lines_breaks_below {g : List Char} (hne : g ≠ []) (hg : AreBreaks g) (text : List Char) :
    lines indent false (g ++ text) = g ++ lines indent true text := by
  obtain ⟨x, g', rfl⟩ := List.exists_cons_of_ne_nil hne
  obtain ⟨hx, hrest⟩ := List.forall_mem_cons.mp hg
  rw [List.cons_append, lines, if_pos hx.1, lines_breaks indent hrest]
  rfl

theorem lines_line {line : List Char} (hline : ∀ x ∈ line, isBreak x = false) (text : List Char) :
    lines indent false (line ++ text) = line ++ lines indent false text := by
  induction line with
  | nil => rfl
  | cons x line ih =>
      obtain ⟨hx, hrest⟩ := List.forall_mem_cons.mp hline
      rw [List.cons_append, lines, hx, if_neg Bool.false_ne_true, if_neg Bool.false_ne_true,
        ih hrest]
      rfl

/-- A line is written at the indentation. -/
theorem lines_indented {x : Char} (hx : isBreak x = false) (text : List Char) :
    lines indent true (x :: text) = spaces indent ++ lines indent false (x :: text) := by
  rw [lines, lines, hx, if_neg Bool.false_ne_true, if_neg Bool.false_ne_true, if_pos rfl]
  rfl

theorem Lined.lines_eq {text body ending : List Char} (h : Lined text body ending) :
    lines indent true text = spaces indent ++ lines indent false text := by
  obtain ⟨x, rest, rfl, hx⟩ := h.exists_cons
  exact lines_indented hx rest

/-- Behind its indentation a text begins with what is neither a break nor a tab. -/
theorem Lined.head_lines {text body ending : List Char} (h : Lined text body ending)
    (hprintable : ∀ x ∈ text, isPrintable x = true) (more : List Char) :
    ∀ x ∈ (lines indent false text ++ more).head?, isBreak x = false ∧ x ≠ '\t' := by
  obtain ⟨x, rest, rfl, hx⟩ := h.exists_cons
  rw [lines, hx]
  exact forall_head ⟨hx, ne_tab_of_isPrintable (hprintable x List.mem_cons_self)⟩

/-- What is written is no shorter than the text. -/
theorem length_le_lines (indent : Nat) (text : List Char) :
    ∀ behindBreak : Bool, text.length ≤ (lines indent behindBreak text).length := by
  induction text with
  | nil => exact fun _ => Nat.le_refl 0
  | cons x text ih =>
      intro behindBreak
      rw [lines]
      split
      · exact Nat.succ_le_succ (ih true)
      · rw [List.length_append, List.length_cons, List.length_cons]
        have := ih false
        omega

/-- A text with a break at its end is breaks, or breaks and then lines. -/
theorem exists_lined {text : List Char} (h : ∀ x ∈ text, isPrintable x = true)
    (hlast : ∀ x ∈ text.getLast?, isBreak x = true) :
    ∃ g rest, text = g ++ rest ∧ AreBreaks g ∧ (∀ x ∈ rest.head?, isBreak x = false)
      ∧ (rest = [] ∨ ∃ body ending, Lined rest body ending) := by
  induction hlength : text.length using Nat.strongRecOn generalizing text with
  | ind n ih =>
      obtain ⟨g, rest, htext, hg, hrest⟩ := exists_span isBreak text
      have hgbreaks : AreBreaks g := fun x hx =>
        ⟨hg x hx, h x (htext ▸ List.mem_append_left rest hx)⟩
      refine ⟨g, rest, htext, hgbreaks, hrest, ?_⟩
      by_cases hnil : rest = []
      · exact .inl hnil
      -- What is not a break begins a line, and what is below it is shorter than the text.
      obtain ⟨line, below, hsplit, hline, hbelow⟩ := exists_span_not isBreak rest
      have hlinene : line ≠ [] := by
        rintro rfl
        rw [List.nil_append] at hsplit
        exact hnil (eq_nil_of_heads (hsplit ▸ hbelow) hrest)
      have hbelowne : below ≠ [] := by
        rintro rfl
        rw [List.append_nil] at hsplit
        have hend := List.getLast?_eq_some_getLast hlinene
        have hbreak := hlast (line.getLast hlinene) (by
          rw [htext, hsplit, List.getLast?_append, hend]
          rfl)
        rw [hline _ (List.getLast_mem hlinene)] at hbreak
        exact nomatch hbreak
      have hmem : ∀ x ∈ below, x ∈ text := fun x hx =>
        htext ▸ List.mem_append_right g (hsplit ▸ List.mem_append_right line hx)
      have hshorter : below.length < n := by
        have := List.length_pos_iff.mpr hlinene
        rw [← hlength, htext, hsplit, List.length_append, List.length_append]
        omega
      obtain ⟨g', rest', hbelow', hg', hrest', hcases⟩ := ih below.length hshorter
        (fun x hx => h x (hmem x hx))
        (fun x hx => hlast x (by
          rw [htext, hsplit, List.getLast?_append, List.getLast?_append, Option.mem_def.mp hx]
          rfl)) rfl
      have hg'ne : g' ≠ [] := by
        rintro rfl
        rw [List.nil_append] at hbelow'
        exact hbelowne (eq_nil_of_heads hbelow (hbelow' ▸ hrest'))
      rw [hsplit, hbelow']
      obtain hnil' | ⟨body, ending, hlined⟩ := hcases
      · rw [hnil', List.append_nil]
        exact .inr ⟨line, g', .last line g' hlinene hline hg'ne hg'⟩
      · exact .inr ⟨_, ending, .cons line g' hlinene hline hg'ne hg' hlined⟩

/-! ## The break at the end -/

/-- Is the last character a line break? -/
def endsInBreak (text : List Char) : Bool :=
  (text.getLast?.map isBreak).getD false

theorem endsInBreak_append (a : List Char) {b : List Char} (hb : b ≠ []) :
    endsInBreak (a ++ b) = endsInBreak b := by
  rw [endsInBreak, endsInBreak, List.getLast?_append, List.getLast?_eq_some_getLast hb]
  rfl

theorem endsInBreak_cons (x : Char) {text : List Char} (hne : text ≠ []) :
    endsInBreak (x :: text) = endsInBreak text :=
  endsInBreak_append [x] hne

theorem endsInBreak_of_areBreaks {g : List Char} (hne : g ≠ []) (hg : AreBreaks g) :
    endsInBreak g = true := by
  rw [endsInBreak, List.getLast?_eq_some_getLast hne]
  exact (hg _ (List.getLast_mem hne)).1

/-- A text with a line break at its end. -/
def closed (text : List Char) : List Char :=
  text ++ if endsInBreak text then [] else ['\n']

theorem endsInBreak_closed (text : List Char) : endsInBreak (closed text) = true := by
  rw [closed]
  split
  · rw [List.append_nil]
    assumption
  · exact endsInBreak_append text (List.cons_ne_nil '\n' [])

theorem forall_mem_closed {text : List Char} (h : ∀ x ∈ text, isPrintable x = true) :
    ∀ x ∈ closed text, isPrintable x = true := by
  rw [closed]
  refine List.forall_mem_append.mpr ⟨h, ?_⟩
  split
  · exact List.forall_mem_nil _
  · exact List.forall_mem_singleton.mpr rfl

theorem lines_append_line (text : List Char) :
    ∀ behindBreak : Bool, lines indent behindBreak (text ++ ['\n'])
      = lines indent behindBreak text ++ ['\n'] := by
  induction text with
  | nil => exact fun _ => rfl
  | cons x text ih =>
      intro behindBreak
      rw [List.cons_append, lines, lines, ih, ih]
      split
      · rfl
      · rw [List.append_assoc]
        rfl

theorem lines_ne_nil {text : List Char} (hne : text ≠ []) (behindBreak : Bool) :
    lines indent behindBreak text ≠ [] := by
  have := length_le_lines indent text behindBreak
  exact List.ne_nil_of_length_pos (Nat.lt_of_lt_of_le (List.length_pos_iff.mpr hne) this)

theorem endsInBreak_lines {text : List Char} (hne : text ≠ []) :
    ∀ behindBreak : Bool, endsInBreak (lines indent behindBreak text) = endsInBreak text := by
  induction text with
  | nil => exact absurd rfl hne
  | cons x text ih =>
      intro behindBreak
      by_cases hnil : text = []
      · rw [hnil, lines, lines, lines]
        split
        · rfl
        · exact endsInBreak_append _ (List.cons_ne_nil x [])
      · rw [lines, endsInBreak_cons x hnil]
        split
        · rw [endsInBreak_cons x (lines_ne_nil hnil true), ih hnil]
        · rw [endsInBreak_append _ (List.cons_ne_nil x _),
            endsInBreak_cons x (lines_ne_nil hnil false), ih hnil]

/-- A text in indented lines up to the start of the next line. -/
theorem block_append_ending {text : List Char} (hne : text ≠ []) :
    block indent text ++ (if endsInBreak (block indent text) then [] else ['\n'])
      = '|' :: (indentHint text ++ chompHint text ++ '\n' :: lines indent true (closed text)) := by
  have hends : endsInBreak (block indent text) = endsInBreak text := by
    rw [block, endsInBreak_cons, endsInBreak_append, endsInBreak_cons, endsInBreak_lines hne]
    · exact lines_ne_nil hne true
    · exact List.cons_ne_nil _ _
    · exact List.append_ne_nil_of_right_ne_nil _ (List.cons_ne_nil _ _)
  rw [hends, closed, block]
  split
  · rw [List.append_nil, List.append_nil]
  · rw [lines_append_line, List.cons_append, List.append_assoc]
    rfl

/-! ## What becomes of the breaks at the end -/

theorem chompHint_of_line (before : List Char) {last : Char} (hlast : isBreak last = false) :
    chompHint (before ++ [last]) = ['-'] := by
  rw [chompHint, List.reverse_append, List.reverse_singleton, List.singleton_append]
  exact if_pos (by rw [hlast]; rfl)

theorem chompHint_of_break (before : List Char) {last x : Char} (hlast : isBreak last = false)
    (hx : isBreak x = true) : chompHint (before ++ [last] ++ [x]) = [] := by
  rw [chompHint, List.reverse_append, List.reverse_append, List.reverse_singleton,
    List.reverse_singleton, List.singleton_append, List.singleton_append]
  simp only [hx, hlast, Bool.not_true, Bool.false_eq_true, if_false]

theorem chompHint_of_breaks (before : List Char) {x y : Char} (hx : isBreak x = true)
    (hy : isBreak y = true) : chompHint (before ++ [x] ++ [y]) = ['+'] := by
  rw [chompHint, List.reverse_append, List.reverse_append, List.reverse_singleton,
    List.reverse_singleton, List.singleton_append, List.singleton_append]
  simp only [hx, hy, Bool.not_true, Bool.false_eq_true, if_false, if_true]

/-- All breaks of a text without lines are kept. -/
theorem chompHint_of_areBreaks {g : List Char} (hne : g ≠ []) (hg : AreBreaks g) :
    chompHint g = ['+'] := by
  obtain rfl | ⟨before, y, rfl⟩ := List.eq_nil_or_concat g
  · exact absurd rfl hne
  rw [List.concat_eq_append] at hg ⊢
  have hy := (hg y (List.mem_append_right before List.mem_cons_self)).1
  obtain rfl | ⟨before, x, rfl⟩ := List.eq_nil_or_concat before
  · rw [List.nil_append, chompHint, List.reverse_singleton]
    exact if_neg (by rw [hy]; exact Bool.false_ne_true)
  · rw [List.concat_eq_append] at hg ⊢
    exact chompHint_of_breaks before (hg x (by simp)).1 hy

end Written

namespace Block

/-! ## Lines without text -/

section

variable {indent k : Nat} {c : Cursor} {g more : List Char}

theorem indentation_of_known {j n : Nat} (hrest : c.rest = spaces j ++ more)
    (hcolumn : c.mark.column = 0) (hj : j ≤ n) (hstop : j = n ∨ ∀ x ∈ more.head?, x ≠ ' ') :
    indentation (some n) c = spaces j := by
  have htake : (spaces j ++ more).take n = spaces j ++ more.take (n - j) := by
    rw [List.take_append, length_spaces, List.take_of_length_le (by rwa [length_spaces])]
  have hall : ∀ x ∈ spaces j, (x == ' ') = true := forall_mem_spaces rfl
  show (c.rest.take (n - c.mark.column)).takeWhile (· == ' ') = spaces j
  rw [hrest, hcolumn, Nat.sub_zero, htake, List.takeWhile_append_of_pos hall]
  obtain rfl | hmore := hstop
  · rw [Nat.sub_self, List.take_zero, List.takeWhile_nil, List.append_nil]
  · cases more with
    | nil => rw [List.take_nil, List.takeWhile_nil, List.append_nil]
    | cons x more =>
        have hx : (x == ' ') = false := beq_eq_false_iff_ne.mpr (hmore x rfl)
        cases n - j with
        | zero => rw [List.take_zero, List.takeWhile_nil, List.append_nil]
        | succ _ =>
            rw [List.take_succ_cons, List.takeWhile_cons, hx, if_neg Bool.false_ne_true,
              List.append_nil]

/-- Behind the indentation there is nothing more to skip where text or a token begins. -/
theorem readBreaks_of_text {known : Option Nat} {n : Nat} (hindent : indentation known c = spaces n)
    (hrest : c.rest = spaces n ++ more) (hmore : ∀ x ∈ more.head?, isBreak x = false ∧ x ≠ '\t')
    (start : Mark) (fuel widest : Nat) :
    readBreaks known start (fuel + 1) widest c
      = .ok ⟨[], max widest (c.mark.column + n), c.past (spaces n)⟩ := by
  have hbehind : (c.past (spaces n)).rest = more := Cursor.past_rest hrest
  have htab : (c.past (spaces n)).at? '\t' = false := by
    rw [Cursor.at?, hbehind]
    cases more with
    | nil => rfl
    | cons x more => exact beq_eq_false_iff_ne.mpr fun h => (hmore x rfl).2 (Option.some.inj h)
  have hbreak : (c.past (spaces n)).lineBreak = [] :=
    Cursor.lineBreak_of_head fun x hx => (hmore x (hbehind ▸ hx)).1
  rw [readBreaks, hindent]
  simp only [htab, hbreak, Bool.and_false, Bool.false_eq_true, if_false, List.isEmpty_nil, if_true]
  rw [Cursor.past_column (forall_mem_spaces rfl), length_spaces]

/-- Breaks at the start of a line are read, and the indentation behind them. -/
theorem readBreaks_known {j n : Nat} (hg : Written.AreBreaks g)
    (hmore : ∀ x ∈ more.head?, isBreak x = false ∧ x ≠ '\t') (hj : j ≤ n)
    (hstop : j = n ∨ ∀ x ∈ more.head?, x ≠ ' ') (start : Mark) :
    ∀ (fuel widest : Nat) {c : Cursor}, g.length < fuel → c.mark.column = 0 →
      c.rest = g ++ (spaces j ++ more) →
      ∃ r, readBreaks (some n) start fuel widest c = .ok r ∧ r.breaks = g ∧ r.rest.rest = more
        ∧ r.rest.mark.column = j := by
  induction g with
  | nil =>
      intro fuel widest c hfuel hcolumn hrest
      obtain ⟨fuel, rfl⟩ := Nat.exists_eq_add_one_of_ne_zero (Nat.ne_of_gt hfuel)
      refine ⟨_, readBreaks_of_text (indentation_of_known hrest hcolumn hj hstop) hrest hmore start
        fuel widest, rfl, Cursor.past_rest hrest, ?_⟩
      rw [Cursor.past_column (forall_mem_spaces rfl), length_spaces, hcolumn, Nat.zero_add]
  | cons x g ih =>
      intro fuel widest c hfuel hcolumn hrest
      obtain ⟨⟨hbreak, hprintable⟩, hg⟩ := List.forall_mem_cons.mp hg
      have hreturn := Written.ne_return_of_isPrintable hprintable
      obtain ⟨fuel, rfl⟩ := Nat.exists_eq_add_one_of_ne_zero (Nat.ne_of_gt (Nat.zero_lt_of_lt hfuel))
      have hnone : indentation (some n) c = [] := by
        refine indentation_of_known (j := 0) hrest hcolumn (Nat.zero_le n) (.inr (forall_head ?_))
        rintro rfl
        exact nomatch hbreak
      have htab : c.at? '\t' = false := by
        rw [Cursor.at?_cons hrest]
        exact beq_eq_false_iff_ne.mpr (Written.ne_tab_of_isPrintable hprintable)
      have hline : c.lineBreak = [x] := Cursor.lineBreak_of_break hrest hbreak hreturn
      obtain ⟨r, hr, hbreaks, hbehind, hat⟩ := ih hg fuel (max widest c.mark.column)
        (Nat.lt_of_succ_lt_succ hfuel)
        (Mark.past_of_breaks (List.cons_ne_nil x [])
          (List.forall_mem_singleton.mpr ⟨hbreak, hreturn⟩) _)
        (Cursor.past_one_rest hrest)
      refine ⟨{ r with breaks := x :: r.breaks }, ?_, congrArg _ hbreaks, hbehind, hat⟩
      rw [readBreaks, hnone]
      simp only [Cursor.past_nil, htab, hline, Bool.and_false, Bool.false_eq_true, if_false,
        List.isEmpty_cons, hr, breaksOf_break hprintable hbreak]
      rfl

/-! ## Lines with text -/

/-- A line that is not at the indentation ends the text. -/
theorem readLines_of_column (hcolumn : c.mark.column ≠ indent) (start : Mark) (fuel : Nat)
    (ending trailing : List Char) (blankAbove : Bool) :
    readLines true indent start fuel ending trailing blankAbove c
      = .ok ⟨[], ending, trailing, c⟩ := by
  cases fuel with
  | zero => rfl
  | succ fuel =>
      rw [readLines]
      split
      · rfl
      · rw [if_pos (bne_iff_ne.mpr hcolumn)]

/-- One line, the breaks behind it and the indentation of the next one. -/
theorem readLines_line {j : Nat} {line : List Char}
    (hline : ∀ x ∈ line, isBreak x = false) (hne : line ≠ []) (hg : Written.AreBreaks g)
    (hgne : g ≠ []) (hmore : ∀ x ∈ more.head?, isBreak x = false ∧ x ≠ '\t') (hj : j ≤ indent)
    (hstop : j = indent ∨ ∀ x ∈ more.head?, x ≠ ' ') (hcolumn : c.mark.column = indent)
    (hrest : c.rest = line ++ (g ++ (spaces j ++ more))) (start : Mark) (fuel : Nat)
    (ending trailing : List Char) (blankAbove : Bool) :
    ∃ first g' c', g = first :: g' ∧ c'.rest = more ∧ c'.mark.column = j ∧ ∃ blank,
      readLines true indent start (fuel + 1) ending trailing blankAbove c
        = (readLines true indent start fuel [first] g' blank c').map fun r =>
            { r with text := ending ++ trailing ++ line ++ r.text } := by
  obtain ⟨x, line', rfl⟩ := List.exists_cons_of_ne_nil hne
  obtain ⟨first, g', rfl⟩ := List.exists_cons_of_ne_nil hgne
  obtain ⟨⟨hbreak, hprintable⟩, hg'⟩ := List.forall_mem_cons.mp hg
  have hreturn := Written.ne_return_of_isPrintable hprintable
  have hspan : c.span (fun x => !isBreak x) = (x :: line', c.past (x :: line')) := by
    refine Cursor.span_eq hrest (fun y hy => by rw [hline y hy]; rfl) (forall_head ?_)
    rw [hbreak]
    rfl
  have hbehind : (c.past (x :: line')).rest = first :: (g' ++ (spaces j ++ more)) :=
    Cursor.past_rest hrest
  obtain ⟨r, hr, hbreaks, hrrest, hrcolumn⟩ := readBreaks_known hg' hmore hj hstop start
    ((c.past (x :: line')).rest.length + 1) 0
    (by rw [hbehind, List.length_cons, List.length_append]; omega)
    (Mark.past_of_breaks (List.cons_ne_nil first [])
      (List.forall_mem_singleton.mpr ⟨hbreak, hreturn⟩) _)
    (Cursor.past_one_rest hbehind)
  refine ⟨first, g', r.rest, rfl, hrrest, hrcolumn, isBlank x, ?_⟩
  rw [readLines, hrest]
  simp only [List.cons_append, hcolumn, bne_self_eq_false, Bool.false_eq_true, if_false, hspan,
    Cursor.lineBreak_of_break hbehind hbreak hreturn, hr, breaksOf_break hprintable hbreak]
  show (readLines true indent start fuel [first] r.breaks (isBlank x) r.rest).bind _ = _
  rw [hbreaks]
  cases readLines true indent start fuel [first] g' (isBlank x) r.rest with
  | error f => rfl
  | ok more => rfl

/-- All lines of a text are read, up to the line behind it, which is indented less. -/
theorem readLines_lined {text body ending : List Char} (h : Written.Lined text body ending)
    (hmore : ∀ x ∈ more.head?, beginsToken x = true) (hk : k < indent) (start : Mark) :
    ∀ {fuel : Nat} (above trailing : List Char) (blankAbove : Bool) {c : Cursor},
      text.length ≤ fuel → (∀ x ∈ text, isPrintable x = true) → c.mark.column = indent →
      c.rest = Written.lines indent false text ++ (spaces k ++ more) →
      ∃ r first, readLines true indent start fuel above trailing blankAbove c = .ok r
        ∧ r.text = above ++ trailing ++ body ∧ r.ending = [first] ∧ ending = first :: r.trailing
        ∧ r.rest.rest = more ∧ r.rest.mark.column = k := by
  have hgap : ∀ x ∈ more.head?, isGap x = false := fun x hx => (beginsToken_iff.mp (hmore x hx)).1
  induction h with
  | last line ending hne hline hendingne hending =>
      intro fuel above trailing blankAbove c hfuel _ hcolumn hrest
      rw [Written.lines_line hline, ← List.append_nil ending,
        Written.lines_breaks_below hendingne hending, List.append_assoc, List.append_assoc] at hrest
      obtain ⟨fuel, rfl⟩ := Nat.exists_eq_add_one_of_ne_zero (n := fuel) (by
        have := List.length_pos_iff.mpr hne
        rw [List.length_append] at hfuel
        omega)
      -- The breaks behind the last line are followed by a line that is indented less.
      obtain ⟨first, g', c', hending', hrest', hcolumn', blank, hread⟩ := readLines_line hline hne
        hending hendingne (fun x hx => not_break_of_isGap (hgap x hx)) (Nat.le_of_lt hk)
        (.inr fun x hx => ne_space_of_isGap (hgap x hx)) hcolumn hrest start fuel above trailing
        blankAbove
      rw [readLines_of_column (c := c') (by rw [hcolumn']; exact Nat.ne_of_lt hk)] at hread
      exact ⟨_, first, hread, List.append_nil _, rfl, hending', hrest', hcolumn'⟩
  | @cons line g text body ending hne hline hgne hg hlined ih =>
      intro fuel above trailing blankAbove c hfuel hprintable hcolumn hrest
      have hprintable' : ∀ y ∈ text, isPrintable y = true := fun y hy =>
        hprintable y (List.mem_append_right line (List.mem_append_right g hy))
      rw [Written.lines_line hline, Written.lines_breaks_below hgne hg, hlined.lines_eq,
        List.append_assoc, List.append_assoc, List.append_assoc] at hrest
      obtain ⟨fuel, rfl⟩ := Nat.exists_eq_add_one_of_ne_zero (n := fuel) (by
        have := List.length_pos_iff.mpr hne
        rw [List.length_append] at hfuel
        omega)
      -- The breaks behind the line are followed by the next line, at the indentation.
      obtain ⟨first, g', c', hg', hrest', hcolumn', blank, hread⟩ := readLines_line hline hne
        hg hgne (hlined.head_lines hprintable' _) (Nat.le_refl indent) (.inl rfl) hcolumn hrest
        start fuel above trailing blankAbove
      have hshorter : text.length ≤ fuel := by
        have := List.length_pos_iff.mpr hne
        rw [List.length_append, List.length_append] at hfuel
        omega
      obtain ⟨r, last, hr, htext, hlast, hending, hbehind, hat⟩ :=
        ih [first] g' blank hshorter hprintable' hcolumn' hrest'
      rw [hr] at hread
      refine ⟨_, last, hread, ?_, hlast, hending, hbehind, hat⟩
      show above ++ trailing ++ line ++ r.text = above ++ trailing ++ (line ++ (g ++ body))
      rw [htext, hg', List.append_assoc (above ++ trailing)]
      rfl

/-! ## Headers -/

/-- The mark in a header of what becomes of the breaks at the end. -/
def Chomping.sign : Chomping → List Char
  | strip => ['-']
  | clip => []
  | keep => ['+']

/-- The indentation that a header tells with the number of columns in it. -/
def hintedIndent (margin : Nat) (hinted : Bool) : Option Nat :=
  (if hinted then some Written.blockIndent else none).map fun n => margin - 1 + n

/-- The header of a text in indented lines. -/
theorem readHeader_hints {hinted : Bool} {chomping : Chomping} (start : Mark)
    (hrest : c.rest = (if hinted then ['2'] else []) ++ (chomping.sign ++ '\n' :: more)) :
    ∃ c', readHeader start c = .ok (chomping, if hinted then some Written.blockIndent else none, c')
      ∧ c'.rest = '\n' :: more := by
  obtain ⟨rest, mark, index⟩ := c
  cases hrest
  cases hinted <;> cases chomping <;> exact ⟨_, rfl, rfl⟩

/-- The mark in the header keeps those breaks that stand at the end of the text. -/
theorem exists_chomping {text before trailing : List Char} {last first : Char}
    (hclosed : Written.closed text = before ++ [last] ++ first :: trailing)
    (hlast : isBreak last = false) (hbreaks : Written.AreBreaks (first :: trailing)) :
    ∃ chomping : Chomping, Written.chompHint text = chomping.sign
      ∧ text = before ++ [last] ++ chomp chomping [first] trailing := by
  have hfirst := (hbreaks first List.mem_cons_self).1
  rw [Written.closed] at hclosed
  obtain rfl | ⟨middle, y, rfl⟩ := List.eq_nil_or_concat trailing
  · -- The only break at the end is that of the text, or it was put there to close it.
    split at hclosed
    · rw [List.append_nil] at hclosed
      exact ⟨.clip, by rw [hclosed]; exact Written.chompHint_of_break before hlast hfirst, hclosed⟩
    · have htext := (List.append_inj' hclosed rfl).1
      refine ⟨.strip, by rw [htext]; exact Written.chompHint_of_line before hlast, ?_⟩
      rw [htext]
      exact (List.append_nil _).symm
  · -- Of several breaks none was put there: the text ends in a break without it.
    rw [List.concat_eq_append] at hclosed hbreaks ⊢
    obtain ⟨inner, x, hinner⟩ : ∃ inner x, first :: middle = inner ++ [x] :=
      ⟨_, _, (List.dropLast_concat_getLast (List.cons_ne_nil first middle)).symm⟩
    have hsplit : before ++ [last] ++ first :: (middle ++ [y])
        = before ++ [last] ++ inner ++ [x] ++ [y] := by
      rw [← List.cons_append, hinner]
      simp only [List.append_assoc]
    have hx : isBreak x = true := by
      refine (hbreaks x ?_).1
      rw [← List.cons_append, hinner]
      simp
    have hy : isBreak y = true := (hbreaks y (by simp)).1
    split at hclosed
    · rw [List.append_nil] at hclosed
      refine ⟨.keep, ?_, hclosed⟩
      rw [hclosed, hsplit]
      exact Written.chompHint_of_breaks _ hx hy
    · rename_i hopen
      rw [hsplit] at hclosed
      rw [(List.append_inj' hclosed rfl).1,
        Written.endsInBreak_append _ (List.cons_ne_nil x [])] at hopen
      exact absurd hx hopen

/-- Which number of columns stands in the header. -/
theorem indentHint_eq (text : List Char) :
    ∃ hinted : Bool, Written.indentHint text = (if hinted then ['2'] else [])
      ∧ (hinted = false → ∀ x ∈ text.head?, x ≠ ' ' ∧ isBreak x = false) := by
  cases text with
  | nil => exact ⟨false, rfl, fun _ => nofun⟩
  | cons x text =>
      refine ⟨x == ' ' || isBreak x, rfl, fun h => ?_⟩
      rw [Bool.or_eq_false_iff, beq_eq_false_iff_ne] at h
      exact forall_head h

/-! ## Whole texts -/

variable {margin : Nat}

/-- Behind its header a text is empty lines and lines with text. -/
theorem read_of_hints (margin : Nat) (hinted : Bool) (chomping : Chomping)
    (hrest : c.rest = '|' :: ((if hinted then ['2'] else []) ++ (chomping.sign ++ '\n' :: more))) :
    ∃ c', c'.rest = more ∧ c'.mark.column = 0 ∧
      read true margin c = (readBreaks (hintedIndent margin hinted) c.mark (more.length + 1) 0
        c').bind fun empty =>
          (readLines true ((hintedIndent margin hinted).getD (max empty.widest (max margin 1))) c.mark
            (more.length + 1) [] empty.breaks false empty.rest).bind fun r =>
              .ok (r.text ++ chomp chomping r.ending r.trailing, r.rest) := by
  obtain ⟨c', hheader, hrest'⟩ := readHeader_hints c.mark (Cursor.skip_one_rest hrest)
  have hblank : c'.skipWhile isBlank = c' :=
    Cursor.skipWhile_of_head (by rw [hrest']; exact forall_head rfl)
  have hcomment : c'.skipComment = c' :=
    Cursor.skipComment_of_head (by rw [hrest']; exact forall_head (by decide))
  have hline : c'.lineBreak = ['\n'] := Cursor.lineBreak_of_break hrest' rfl (by decide)
  have hbehind : (c'.past ['\n']).rest = more := Cursor.past_one_rest hrest'
  refine ⟨c'.past ['\n'], hbehind, rfl, ?_⟩
  rw [read, hheader]
  simp only [bind, Except.bind, hblank, hcomment, hrest', hline, hbehind]
  rfl

theorem hintedIndent_true (hmargin : 0 < margin) : hintedIndent margin true = some (margin + 1) := by
  show some (margin - 1 + 2) = some (margin + 1)
  rw [show margin - 1 + 2 = margin + 1 by omega]

/-- The indentation of a text is that of its first line where the header does not tell it. -/
theorem readBreaks_unknown {n : Nat} (hcolumn : c.mark.column = 0) (hrest : c.rest = spaces n ++ more)
    (hmore : ∀ x ∈ more.head?, isBreak x = false ∧ x ≠ '\t') (hspace : ∀ x ∈ more.head?, x ≠ ' ')
    (start : Mark) (fuel : Nat) :
    ∃ empty, readBreaks none start (fuel + 1) 0 c = .ok empty ∧ empty.breaks = []
      ∧ empty.rest.rest = more ∧ empty.rest.mark.column = n ∧ empty.widest = n := by
  have hall : ∀ x ∈ spaces n, (x == ' ') = true := forall_mem_spaces rfl
  have hindent : indentation none c = spaces n :=
    congrArg Prod.fst (Cursor.span_eq hrest hall fun x hx => beq_eq_false_iff_ne.mpr (hspace x hx))
  refine ⟨_, readBreaks_of_text hindent hrest hmore start fuel 0, rfl, Cursor.past_rest hrest, ?_, ?_⟩
  · rw [Cursor.past_column (forall_mem_spaces rfl), length_spaces, hcolumn, Nat.zero_add]
  · show max 0 (c.mark.column + n) = n
    omega

/-- The empty lines at the start, and the indentation of the first line with text. -/
theorem readBreaks_lined {hinted : Bool} {text body ending : List Char} {fuel : Nat}
    (hmargin : 0 < margin) (hg : Written.AreBreaks g) (hlined : Written.Lined text body ending)
    (hprintable : ∀ x ∈ text, isPrintable x = true)
    (hhint : hinted = false → ∀ x ∈ (g ++ text).head?, x ≠ ' ' ∧ isBreak x = false)
    (hfuel : g.length < fuel) (hcolumn : c.mark.column = 0)
    (hrest : c.rest = Written.lines (margin + 1) true (g ++ text) ++ more) (start : Mark) :
    ∃ empty, readBreaks (hintedIndent margin hinted) start fuel 0 c = .ok empty
      ∧ empty.breaks = g ∧ empty.rest.rest = Written.lines (margin + 1) false text ++ more
      ∧ empty.rest.mark.column = margin + 1
      ∧ (hintedIndent margin hinted).getD (max empty.widest (max margin 1)) = margin + 1 := by
  have hhead : ∀ x ∈ (Written.lines (margin + 1) false text ++ more).head?,
      isBreak x = false ∧ x ≠ '\t' := hlined.head_lines hprintable more
  rw [Written.lines_breaks _ hg, hlined.lines_eq, List.append_assoc, List.append_assoc] at hrest
  cases hinted with
  | true =>
      obtain ⟨empty, hread, hbreaks, hbehind, hat⟩ := readBreaks_known hg hhead
        (Nat.le_refl (margin + 1)) (.inl rfl) start fuel 0 hfuel hcolumn hrest
      rw [hintedIndent_true hmargin]
      exact ⟨empty, hread, hbreaks, hbehind, hat, rfl⟩
  | false =>
      -- Breaks at the front would have been told by the header.
      have hgnil : g = [] := eq_nil_of_heads (p := isBreak)
        (fun x hx => (hg x (List.mem_of_mem_head? hx)).1) fun x hx => (hhint rfl x (by
          rw [List.head?_append, Option.mem_def.mp hx]
          rfl)).2
      subst hgnil
      have hspace : ∀ x ∈ (Written.lines (margin + 1) false text ++ more).head?, x ≠ ' ' := by
        obtain ⟨x, rest, rfl, hx⟩ := hlined.exists_cons
        rw [Written.lines, hx]
        exact forall_head (hhint rfl x rfl).1
      obtain ⟨fuel, rfl⟩ := Nat.exists_eq_add_one_of_ne_zero (Nat.ne_of_gt hfuel)
      obtain ⟨empty, hread, hbreaks, hbehind, hat, hwidest⟩ :=
        readBreaks_unknown hcolumn hrest hhead hspace start fuel
      refine ⟨empty, hread, hbreaks, hbehind, hat, ?_⟩
      show max empty.widest (max margin 1) = margin + 1
      omega

/-- Line breaks without lines are read up to the line behind them. -/
theorem read_breaks {text : List Char} (hmargin : 0 < margin) (htext : Written.AreBreaks text)
    (hmore : ∀ x ∈ more.head?, isGap x = false) (hk : k ≤ margin)
    (hrest : c.rest = '|' :: (['2'] ++ (['+'] ++ '\n' :: (text ++ (spaces k ++ more))))) :
    ∃ c', read true margin c = .ok (text, c') ∧ c'.rest = more ∧ c'.mark.column = k := by
  obtain ⟨c', hrest', hcolumn, hread⟩ :=
    read_of_hints margin true .keep hrest
  obtain ⟨empty, hempty, hbreaks, hbehind, hat⟩ := readBreaks_known htext
    (fun x hx => not_break_of_isGap (hmore x hx))
    (Nat.le_succ_of_le hk) (.inr fun x hx => ne_space_of_isGap (hmore x hx)) c.mark
    ((text ++ (spaces k ++ more)).length + 1) 0 (by rw [List.length_append]; omega) hcolumn hrest'
  refine ⟨empty.rest, ?_, hbehind, hat⟩
  rw [hread, hintedIndent_true hmargin, hempty]
  show (readLines true (margin + 1) c.mark _ [] empty.breaks false empty.rest).bind _ = _
  rw [readLines_of_column (by omega), hbreaks]
  rfl

/-- Breaks and lines behind them are read up to the line behind them, which is indented less. -/
theorem read_lined {hinted : Bool} {chomping : Chomping} {text body : List Char} {first : Char}
    {trailing : List Char} (hmargin : 0 < margin) (hg : Written.AreBreaks g)
    (hlined : Written.Lined text body (first :: trailing))
    (hprintable : ∀ x ∈ text, isPrintable x = true)
    (hhint : hinted = false → ∀ x ∈ (g ++ text).head?, x ≠ ' ' ∧ isBreak x = false)
    (hmore : ∀ x ∈ more.head?, beginsToken x = true) (hk : k ≤ margin)
    (hrest : c.rest = '|' :: ((if hinted then ['2'] else []) ++ (chomping.sign ++ '\n' ::
      (Written.lines (margin + 1) true (g ++ text) ++ (spaces k ++ more))))) :
    ∃ c', read true margin c = .ok (g ++ body ++ chomp chomping [first] trailing, c')
      ∧ c'.rest = more ∧ c'.mark.column = k := by
  obtain ⟨c', hrest', hcolumn, hread⟩ := read_of_hints margin hinted chomping hrest
  have hlength : (g ++ text).length
      ≤ (Written.lines (margin + 1) true (g ++ text) ++ (spaces k ++ more)).length :=
    (Written.length_le_lines (margin + 1) (g ++ text) true).trans
      (List.sublist_append_left _ _).length_le
  rw [List.length_append] at hlength
  obtain ⟨empty, hempty, hbreaks, hbehind, hat, hindent⟩ := readBreaks_lined hmargin hg hlined
    hprintable hhint (Nat.lt_succ_of_le (Nat.le_trans (Nat.le_add_right _ _) hlength)) hcolumn hrest'
    c.mark
  obtain ⟨r, first', hr, htext, hending, htrailing, hrest'', hcolumn''⟩ := readLines_lined hlined
    hmore (Nat.lt_succ_of_le hk) c.mark [] g false
    (Nat.le_succ_of_le (Nat.le_trans (Nat.le_add_left _ _) hlength)) hprintable hat hbehind
  obtain ⟨rfl, rfl⟩ := List.cons.inj htrailing
  refine ⟨r.rest, ?_, hrest'', hcolumn''⟩
  rw [hread, hempty]
  show (readLines true ((hintedIndent margin hinted).getD _) c.mark _ [] empty.breaks false
    empty.rest).bind _ = _
  rw [hindent, hbreaks, hr]
  show Except.ok (r.text ++ chomp chomping r.ending r.trailing, r.rest) = _
  rw [htext, hending, List.nil_append]

/-- A text in indented lines is read up to the line behind it, which is indented less. -/
theorem read_lines {text : List Char} (hmargin : 0 < margin)
    (htext : ∀ x ∈ text, isPrintable x = true) (hne : text ≠ [])
    (hmore : ∀ x ∈ more.head?, beginsToken x = true) (hk : k ≤ margin)
    (hrest : c.rest = '|' :: (Written.indentHint text ++ (Written.chompHint text ++ '\n' ::
      (Written.lines (margin + 1) true (Written.closed text) ++ (spaces k ++ more))))) :
    ∃ c', read true margin c = .ok (text, c') ∧ c'.rest = more ∧ c'.mark.column = k := by
  obtain ⟨g, rest, hsplit, hg, hresthead, hcases⟩ := Written.exists_lined
    (Written.forall_mem_closed htext) fun x hx => by
      have hends := Written.endsInBreak_closed text
      rw [Written.endsInBreak, Option.mem_def.mp hx] at hends
      exact hends
  obtain ⟨hinted, hhint, hhead⟩ := indentHint_eq text
  obtain ⟨x, text', htext'⟩ := List.exists_cons_of_ne_nil hne
  obtain rfl | ⟨body, ending, hlined⟩ := hcases
  · -- Without lines the text is line breaks, and all of them are kept.
    rw [List.append_nil] at hsplit
    have hbreaks : Written.AreBreaks text := fun y hy => hg y (by
      rw [← hsplit]
      exact List.mem_append_left _ hy)
    have hclosed : Written.closed text = text := by
      rw [Written.closed, if_pos (Written.endsInBreak_of_areBreaks hne hbreaks), List.append_nil]
    have hinted' : hinted = true := by
      refine Bool.of_not_eq_false fun hfalse => ?_
      have hx := (hhead hfalse x (htext' ▸ rfl)).2
      rw [(hbreaks x (htext' ▸ List.mem_cons_self)).1] at hx
      exact nomatch hx
    rw [hhint, hinted', Written.chompHint_of_areBreaks hne hbreaks, hclosed,
      Written.lines_areBreaks hbreaks] at hrest
    exact read_breaks hmargin hbreaks (fun y hy => (beginsToken_iff.mp (hmore y hy)).1) hk hrest
  · obtain ⟨first, trailing, rfl⟩ := List.exists_cons_of_ne_nil hlined.ending_ne_nil
    obtain ⟨before, last, hbody, hlast⟩ := hlined.exists_body
    have hclosed : Written.closed text = g ++ before ++ [last] ++ first :: trailing := by
      rw [hsplit, hlined.eq_append, hbody]
      simp only [List.append_assoc]
    obtain ⟨chomping, hsign, hkept⟩ := exists_chomping hclosed hlast hlined.areBreaks
    rw [List.append_assoc g, ← hbody] at hkept
    have hprintable : ∀ y ∈ rest, isPrintable y = true := fun y hy =>
      Written.forall_mem_closed htext y (hsplit ▸ List.mem_append_right g hy)
    have hhead' : hinted = false → ∀ y ∈ (g ++ rest).head?, y ≠ ' ' ∧ isBreak y = false := by
      rw [← hsplit, htext', Written.closed]
      exact fun hfalse y hy => hhead hfalse y (htext' ▸ hy)
    rw [hhint, hsign, hsplit] at hrest
    have hread := read_lined hmargin hg hlined hprintable hhead' hmore hk hrest
    rwa [← hkept] at hread

end

end Block

end ReleaseGate.Yaml
