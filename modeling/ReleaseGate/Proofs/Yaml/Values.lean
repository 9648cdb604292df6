import ReleaseGate.Proofs.Yaml.Blocks
import ReleaseGate.Proofs.Yaml.Keys

/-!
# Values — one scalar behind a colon, however it is written

In each style the reader goes from the start of the text to the next line. A text without quotes and
one in lines take the gap before that line with them, so a key may begin there at once; behind a
quote the end of the line is still to come.
-/

namespace ReleaseGate.Yaml

open Written (spaces)

namespace Written

/-- A text as a value, up to the start of the next line. -/
def body (indent : Nat) (text : List Char) : List Char :=
  inStyle indent text (styleOf text) ++
    if endsInBreak (inStyle indent text (styleOf text)) then [] else ['\n']

theorem value_eq (indent : Nat) (text : String) :
    value indent text = ' ' :: body indent text.toList :=
  rfl

/-- Is a text written without quotes? -/
def isPlain (text : List Char) : Bool :=
  match styleOf text with
  | .plain => true
  | _ => false

/-- The token of a text as it is written. -/
def token (text : String) : Token :=
  .scalar text.toList (isPlain text.toList)

variable {indent : Nat} {text : List Char}

/-- A text is written without quotes, between quotes that allow it, or in lines that do. -/
theorem styleOf_cases (text : List Char) :
    (styleOf text = .plain ∧ plainAllowed text = true ∧ text ≠ [])
      ∨ (styleOf text = .single ∧ singleAllowed text = true ∧ '\n' ∉ text)
      ∨ styleOf text = .double
      ∨ (styleOf text = .lines ∧ linesAllowed text = true ∧ text ≠ []) := by
  rw [styleOf]
  by_cases hfeed : text.contains '\n' = true
  · rw [if_pos hfeed]
    by_cases hlines : linesAllowed text = true
    · rw [if_pos hlines]
      refine .inr (.inr (.inr ⟨rfl, hlines, ?_⟩))
      rintro rfl
      exact nomatch hfeed
    · rw [if_neg hlines]
      exact .inr (.inr (.inl rfl))
  · rw [if_neg hfeed]
    by_cases hplain : (plainAllowed text && !isMistakable text) = true
    · rw [if_pos hplain]
      rw [Bool.and_eq_true, Bool.not_eq_true'] at hplain
      refine .inl ⟨rfl, hplain.1, ?_⟩
      rintro rfl
      exact nomatch hplain.2
    · rw [if_neg hplain]
      by_cases hsingle : singleAllowed text = true
      · rw [if_pos hsingle]
        exact .inr (.inl ⟨rfl, hsingle, fun h => hfeed (List.contains_iff_mem.mpr h)⟩)
      · rw [if_neg hsingle]
        exact .inr (.inr (.inl rfl))

theorem body_ne_nil (indent : Nat) (text : List Char) : body indent text ≠ [] := by
  intro h
  obtain ⟨hwritten, hending⟩ := List.append_eq_nil_iff.mp h
  rw [hwritten] at hending
  exact nomatch hending

theorem body_plain (hstyle : styleOf text = .plain) (hallowed : plainAllowed text = true)
    (hne : text ≠ []) : body indent text = text ++ ['\n'] := by
  have hopen : endsInBreak text = false := by
    rw [endsInBreak, List.getLast?_eq_some_getLast hne]
    exact (plainAllowed_iff.mp hallowed).2.1 _ (List.getLast_mem hne)
  rw [body, hstyle]
  show text ++ (if endsInBreak text = true then [] else ['\n']) = _
  rw [hopen, if_neg Bool.false_ne_true]

theorem body_single (hstyle : styleOf text = .single) :
    body indent text = '\'' :: (single indent false text ++ ['\'', '\n']) := by
  have hopen : endsInBreak (inStyle indent text .single) = false :=
    endsInBreak_append ('\'' :: single indent false text) (List.cons_ne_nil '\'' [])
  rw [body, hstyle, hopen, if_neg Bool.false_ne_true]
  exact List.append_assoc ('\'' :: single indent false text) ['\''] ['\n']

theorem body_double (hstyle : styleOf text = .double) :
    body indent text = '"' :: (text.flatMap doubleChar ++ ['"', '\n']) := by
  have hopen : endsInBreak (inStyle indent text .double) = false :=
    endsInBreak_append ('"' :: text.flatMap doubleChar) (List.cons_ne_nil '"' [])
  rw [body, hstyle, hopen, if_neg Bool.false_ne_true]
  exact List.append_assoc ('"' :: text.flatMap doubleChar) ['"'] ['\n']

theorem body_lines (hstyle : styleOf text = .lines) (hne : text ≠ []) : body indent text
    = '|' :: (indentHint text ++ chompHint text ++ '\n' :: lines indent true (closed text)) := by
  rw [body, hstyle]
  exact block_append_ending hne

/-- What a text without quotes begins with. -/
theorem plainAllowed_head {x : Char} (h : plainAllowed (x :: text) = true) :
    isGap x = false ∧ x ∉ leadingIndicators ∧ beginsToken x = true
      ∧ (x = '-' ∨ x = '?' ∨ x = ':' → gapOrEnd text = false) := by
  obtain ⟨hclean, hbreaks, hhead, -, hbegins, hindicators⟩ := plainAllowed_iff.mp h
  have hprintable := isPrintable_of_isClean hclean x List.mem_cons_self
  have hgap : isGap x = false := by
    rw [isGap, isBlank, hbreaks x List.mem_cons_self, Bool.or_false, Bool.or_eq_false_iff]
    exact ⟨beq_eq_false_iff_ne.mpr fun hx => hhead (congrArg some hx),
      beq_eq_false_iff_ne.mpr (ne_tab_of_isPrintable hprintable)⟩
  rw [beginsOtherwise, Bool.or_eq_false_iff] at hbegins
  rw [holdsIndicator, Bool.or_eq_false_iff, Bool.or_eq_false_iff] at hindicators
  obtain ⟨hlead, hdash⟩ := Bool.or_eq_false_iff.mp hbegins.2
  have hlead : x ∉ leadingIndicators := fun hx =>
    Bool.false_ne_true (hlead.symm.trans (List.contains_iff_mem.mpr hx))
  refine ⟨hgap, hlead, beginsToken_iff.mpr ⟨hgap, ?_, ?_⟩, ?_⟩
  · rintro rfl
    exact hlead List.mem_cons_self
  · rintro rfl
    exact absurd hprintable (by decide)
  · rintro (rfl | rfl | rfl)
    · exact hdash
    · exact hdash
    · exact hindicators.1.1

/-- However a text is written, its first character begins a token. -/
theorem beginsToken_body (indent : Nat) (text more : List Char) :
    ∀ x ∈ (body indent text ++ more).head?, beginsToken x = true := by
  rcases styleOf_cases text with
    ⟨hstyle, hplain, hne⟩ | ⟨hstyle, -⟩ | hstyle | ⟨hstyle, -, hne⟩
  · obtain ⟨x, text', rfl⟩ := List.exists_cons_of_ne_nil hne
    rw [body_plain hstyle hplain hne]
    exact forall_head (plainAllowed_head hplain).2.2.1
  · rw [body_single hstyle]
    exact forall_head rfl
  · rw [body_double hstyle]
    exact forall_head rfl
  · rw [body_lines hstyle hne]
    exact forall_head rfl

end Written

namespace Layout

section

variable {l : Layout} {more : List Char}

theorem readHere_single (h : l.cursor.rest = '\'' :: more) : l.readHere = l.quoted false := by
  simp only [readHere, atIndicator, Cursor.at?_cons h, Cursor.atMarker_of_head h, ne_eq,
    Char.reduceEq, Char.reduceBEq, not_false_eq_true, Bool.and_false, Bool.false_and,
    Bool.false_eq_true, if_false, if_true]

theorem readHere_double (h : l.cursor.rest = '"' :: more) : l.readHere = l.quoted true := by
  simp only [readHere, atIndicator, Cursor.at?_cons h, Cursor.atMarker_of_head h, ne_eq,
    Char.reduceEq, Char.reduceBEq, not_false_eq_true, Bool.and_false, Bool.false_and,
    Bool.false_eq_true, if_false, if_true]

theorem readHere_lines (h : l.cursor.rest = '|' :: more) (hflow : l.inFlow = false) :
    l.readHere = l.block true := by
  simp only [readHere, atIndicator, Cursor.at?_cons h, Cursor.atMarker_of_head h, ne_eq,
    Char.reduceEq, Char.reduceBEq, not_false_eq_true, Bool.and_false, Bool.false_and, Bool.true_and,
    Bool.false_eq_true, if_false, if_true, hflow, Bool.not_false]

end

section

variable {l : Layout} {p : Place} {text more : List Char} {k : Nat}

theorem Stands.saveKey_of_value (h : l.Stands p) (hallowed : p.allowed = false) :
    l.saveKey = .ok l := by
  rw [Layout.saveKey, h.allowed, hallowed]
  rfl

/-- A text without quotes is read up to the next line. -/
theorem Stands.readHere_text (h : l.Stands p) (hallowed : p.allowed = false)
    (hplain : Written.plainAllowed text = true) (hne : text ≠ []) (hinside : p.margin ≤ p.column)
    (hmore : ∀ x ∈ more.head?, beginsToken x = true) (hk : k < p.margin)
    (hrest : p.rest = text ++ '\n' :: (spaces k ++ more)) :
    ∃ m, l.readHere = .ok m ∧ m.Stands { p with
      kinds := .scalar text true :: p.kinds, allowed := true, column := k, rest := more } := by
  obtain ⟨x, text', rfl⟩ := List.exists_cons_of_ne_nil hne
  obtain ⟨hgap, hlead, -, hmark⟩ := Written.plainAllowed_head hplain
  have hhere : l.cursor.rest = x :: (text' ++ '\n' :: (spaces k ++ more)) := h.rest.trans hrest
  rw [← gapOrEnd_append_line text' (spaces k ++ more)] at hmark
  have hcolumn : p.margin ≤ l.cursor.mark.column := by
    rw [h.column]
    exact hinside
  have hplace : 0 < l.cursor.mark.column := by omega
  rw [← h.margin] at hk hcolumn
  obtain ⟨c, hread, hbehind, hat⟩ := Plain.read_text hplain hhere hmore hk hcolumn
  refine ⟨{ l with
    cursor := c
    tokens := (.scalar (x :: text') true, l.cursor.mark) :: l.tokens
    keyAllowed := true }, ?_, ?_⟩
  · rw [readHere_plain hhere h.inFlow hgap hlead hmark
      (Cursor.atDocumentMark_of_column hplace), plain, h.saveKey_of_value hallowed]
    show (Plain.read l.inFlow l.margin l.cursor).bind _ = _
    rw [h.inFlow, hread]
    rfl
  · exact ⟨congrArg (Token.scalar (x :: text') true :: ·) h.kinds, h.margin, h.outer, h.pending,
      h.outerPending, rfl, hat, hbehind⟩

/-- A quoted text is read up to the end of its line. -/
theorem Stands.readHere_quoted {double : Bool} {c : Cursor} (h : l.Stands p)
    (hallowed : p.allowed = false) (hhere : l.readHere = l.quoted double)
    (hread : Quoted.read double l.cursor = .ok (text, c)) :
    ∃ m, l.readHere = .ok m ∧ m.Stands { p with
      kinds := .scalar text false :: p.kinds, column := c.mark.column, rest := c.rest } := by
  refine ⟨{ l with
    cursor := c
    tokens := (.scalar text false, l.cursor.mark) :: l.tokens
    keyAllowed := false }, ?_, ?_⟩
  · rw [hhere, quoted, node, h.saveKey_of_value hallowed]
    show ((Quoted.read double l.cursor).bind _).bind _ = _
    rw [hread]
    rfl
  · exact ⟨congrArg (Token.scalar text false :: ·) h.kinds, h.margin, h.outer, h.pending,
      h.outerPending, hallowed.symm, rfl, rfl⟩

/-- A text in lines is read up to the line behind it. -/
theorem Stands.readHere_block {rest : List Char} (h : l.Stands p) (hmargin : 0 < p.margin)
    (htext : ∀ x ∈ text, isPrintable x = true) (hne : text ≠ [])
    (hmore : ∀ x ∈ more.head?, beginsToken x = true) (hk : k ≤ p.margin)
    (hrest : p.rest = '|' :: rest)
    (hlines : rest = Written.indentHint text ++ (Written.chompHint text ++ '\n' ::
      (Written.lines (p.margin + 1) true (Written.closed text) ++ (spaces k ++ more)))) :
    ∃ m, l.readHere = .ok m ∧ m.Stands { p with
      kinds := .scalar text false :: p.kinds, allowed := true, column := k, rest := more } := by
  have hhere : l.cursor.rest = '|' :: rest := h.rest.trans hrest
  rw [← h.margin] at hmargin hk hlines
  obtain ⟨c, hread, hbehind, hcolumn⟩ :=
    Block.read_lines hmargin htext hne hmore hk (hlines ▸ hhere)
  refine ⟨{ l with
    cursor := c
    tokens := (.scalar text false, l.cursor.mark) :: l.tokens
    keyAllowed := true }, ?_, ?_⟩
  · rw [readHere_lines hhere h.inFlow, block, h.dropKey]
    show ((Block.read true l.margin l.cursor).bind _) = _
    rw [hread]
    rfl
  · exact ⟨congrArg (Token.scalar text false :: ·) h.kinds, h.margin, h.outer, h.pending,
      h.outerPending, rfl, hcolumn, hbehind⟩

/-- One step reads a value, in whatever style it is written, and leads to the next line. -/
theorem Ready.steps_value {text : String} (h : l.Ready p) (hallowed : p.allowed = false)
    (hmargin : 0 < p.margin) (hinside : p.margin ≤ p.column)
    (hmore : ∀ x ∈ more.head?, beginsToken x = true) (hk : k < p.margin)
    (hrest : p.rest = Written.body (p.margin + 1) text.toList ++ (spaces k ++ more)) :
    ∃ m, Steps 1 l m ∧ m.Ready ({ p with
      kinds := Written.token text :: p.kinds
      allowed := true
      column := k
      rest := more } : Place).close := by
  have hne : p.rest ≠ [] := by
    rw [hrest]
    exact List.append_ne_nil_of_left_ne_nil (Written.body_ne_nil _ _) _
  obtain ⟨next, hnext, hstep⟩ := h.step hne
  rw [Written.token, Written.isPlain]
  -- Behind a quote the end of the line is still to be skipped; in the other styles it has been read.
  rcases Written.styleOf_cases text.toList with
    ⟨hstyle, hplain, hne⟩ | ⟨hstyle, hsingle, hfeed⟩ | hstyle | ⟨hstyle, hlines, hne⟩
  · rw [Written.body_plain hstyle hplain hne, List.append_assoc] at hrest
    obtain ⟨m, hread, hm⟩ := hnext.readHere_text hallowed hplain hne hinside hmore hk hrest
    rw [hstyle]
    exact ⟨m, hstep hread hm, hm.ready_here hmore⟩
  · rw [Written.body_single hstyle, List.cons_append, List.append_assoc] at hrest
    obtain ⟨c, hquoted, hbehind⟩ := Quoted.read_single (Nat.succ_pos p.margin) hsingle hfeed
      (forall_head (by decide)) (hnext.rest.trans hrest)
    obtain ⟨m, hread, hm⟩ :=
      hnext.readHere_quoted hallowed (readHere_single (hnext.rest.trans hrest)) hquoted
    rw [hstyle]
    exact ⟨m, hstep hread hm, hm.ready_of_line hbehind hmore⟩
  · rw [Written.body_double hstyle, List.cons_append, List.append_assoc] at hrest
    obtain ⟨c, hquoted, hbehind⟩ := Quoted.read_double (hnext.rest.trans hrest)
    obtain ⟨m, hread, hm⟩ :=
      hnext.readHere_quoted hallowed (readHere_double (hnext.rest.trans hrest)) hquoted
    rw [hstyle]
    exact ⟨m, hstep hread hm, hm.ready_of_line hbehind hmore⟩
  · rw [Written.body_lines hstyle hne, List.cons_append, List.append_assoc,
      List.append_assoc] at hrest
    rw [Written.linesAllowed, Bool.and_eq_true] at hlines
    obtain ⟨m, hread, hm⟩ := hnext.readHere_block hmargin (Written.isPrintable_of_isClean hlines.1)
      hne hmore (Nat.le_of_lt hk) hrest rfl
    rw [hstyle]
    exact ⟨m, hstep hread hm, hm.ready_here hmore⟩

end

end Layout

end ReleaseGate.Yaml
