import ReleaseGate.Proofs.Yaml.Steps

/-!
# Keys — names with a colon behind them

A name is read as a scalar that may turn out to be a key, and it does with the colon behind it: the
token of the key, and that of the mapping if one begins here, are put in front of the name.
-/

namespace ReleaseGate.Yaml

open Written (spaces)

/-! ## Indicators -/

theorem Written.leadingIndicators_eq : Written.leadingIndicators =
    ['#', ',', '[', ']', '\x7b', '\x7d', '&', '*', '!', '|', '>', '\'', '"', '%', '@', '\x60'] :=
  rfl

theorem Layout.indicators_eq : Layout.indicators =
    ['-', '?', ':', ',', '[', ']', '\x7b', '\x7d', '#', '&', '*', '!', '|', '>', '\'', '"', '%', '@',
      '\x60'] :=
  rfl

namespace Cursor

variable {c : Cursor} {x y : Char} {more : List Char}

theorem atMarker_of_head (h : c.rest = x :: more) (hne : x ≠ y) : c.atMarker y = false := by
  rw [atMarker, h]
  rcases more with _ | ⟨b, _ | ⟨d, more⟩⟩
  · exact Bool.and_false _
  · exact Bool.and_false _
  · show (_ && (x == y && b == y && d == y && gapOrEnd more)) = false
    rw [beq_eq_false_iff_ne.mpr hne, Bool.false_and, Bool.false_and, Bool.false_and, Bool.and_false]

end Cursor

namespace Layout

section

variable {l : Layout} {x : Char} {more : List Char}

theorem readHere_colon (h : l.cursor.rest = ':' :: more) (hmore : gapOrEnd more = true) :
    l.readHere = l.value := by
  simp only [readHere, atIndicator, Cursor.at?_cons h, Cursor.atMarker_of_head h, ne_eq,
    Char.reduceEq, Char.reduceBEq, not_false_eq_true, Bool.and_false, Bool.false_and, Bool.true_and,
    Bool.false_eq_true, if_false, if_true, h, List.drop, hmore, Bool.or_true]

/-- What begins with no indicator is a text without quotes. -/
theorem readHere_plain (h : l.cursor.rest = x :: more) (hflow : l.inFlow = false)
    (hgap : isGap x = false) (hlead : x ∉ Written.leadingIndicators)
    (hmore : x = '-' ∨ x = '?' ∨ x = ':' → gapOrEnd more = false)
    (hmark : l.cursor.atDocumentMark = false) : l.readHere = l.plain := by
  have hindicator (y : Char) (tight : Bool) (hy : y = '-' ∨ y = '?' ∨ y = ':') :
      l.atIndicator y tight = false := by
    rw [atIndicator, hflow, Bool.and_false, Bool.false_or, h, Cursor.at?_cons h]
    by_cases hxy : x = y
    · rw [show (x :: more).drop 1 = more from rfl, hmore (hxy ▸ hy), Bool.and_false]
    · rw [beq_eq_false_iff_ne.mpr hxy, Bool.false_and]
  have hbegins : beginsPlain false (x :: more) = true := by
    rw [beginsPlain, hgap]
    by_cases hmarks : x = '-' ∨ x = '?' ∨ x = ':'
    · have hbehind := hmore hmarks
      rcases hmarks with rfl | rfl | rfl
      · cases more with
        | nil => exact nomatch hbehind
        | cons y more =>
            rw [gapOrEnd] at hbehind
            rw [List.head?_cons, Option.map_some, isBlank_eq_false_of_isGap hbehind]
            rfl
      · rw [hbehind]
        exact Bool.or_true _
      · rw [hbehind]
        exact Bool.or_true _
    · have hcontains : indicators.contains x = false := by
        rw [Written.leadingIndicators_eq] at hlead
        rw [indicators_eq]
        simp only [List.contains_eq_mem, List.mem_cons, List.not_mem_nil, or_false, not_or,
          decide_eq_false_iff_not] at hlead hmarks ⊢
        simp only [hlead, hmarks, not_false_eq_true, and_self]
      rw [hcontains]
      rfl
  -- So none of the readers for an indicator is chosen, and that for a text without quotes is.
  have hmarker := Bool.or_eq_false_iff.mp hmark
  rw [Written.leadingIndicators_eq] at hlead
  simp only [List.mem_cons, List.not_mem_nil, or_false, not_or] at hlead
  simp only [readHere, hmarker, hindicator, hflow, Cursor.at?_cons h, beq_eq_false_iff_ne.mpr, hlead,
    ne_eq, not_false_eq_true, true_or, or_true, Bool.and_false, Bool.false_and, Bool.false_eq_true,
    if_false]
  rw [h, hbegins, if_pos rfl]

end

/-! ## Keys -/

/-- A name whose characters are all letters or underscores, short enough to be a key. -/
def isMemberName (name : List Char) : Bool :=
  !name.isEmpty && name.length ≤ PendingKey.reach && name.all fun x => x.isAlpha || x == '_'

/-- What is read from the colon behind a name on: a mapping begins with the name, unless one with
this column is around it. -/
def Place.openMapping (p : Place) : Place :=
  if p.column < p.margin then p
  else
    { p with
      kinds := .blockMapping :: p.kinds
      margin := p.column + 1
      outer := p.margin :: p.outer }

/-- The place behind a name and its colon. -/
def Place.behindKey (p : Place) (name rest : List Char) : Place :=
  { p.openMapping with
    kinds := .value :: .scalar name true :: .key :: p.openMapping.kinds
    allowed := false
    column := p.column + name.length + 1
    rest := rest }

theorem closeBlocks_of_le {l : Layout} {least : Nat} (h : l.margin ≤ least) :
    l.closeBlocks least = l := by
  have hclosed : closeFrom l.cursor.mark least l.tokens l.margin l.outerMargins
      = (l.tokens, l.margin, l.outerMargins) := by
    cases l.outerMargins with
    | nil => rfl
    | cons next outer => rw [closeFrom, if_neg (Nat.not_lt.mpr h)]
  rw [closeBlocks, hclosed]
  split <;> rfl

section

variable {name more : List Char}

theorem length_of_isMemberName (h : isMemberName name = true) :
    0 < name.length ∧ name.length ≤ PendingKey.reach := by
  rw [isMemberName, Bool.and_eq_true, Bool.and_eq_true, Bool.not_eq_true',
    List.isEmpty_eq_false_iff, decide_eq_true_iff] at h
  exact ⟨List.length_pos_iff.mpr h.1.1, h.1.2⟩

/-- A character of a name is none that the reader stops at. -/
theorem not_mem_of_isMemberName (h : isMemberName name = true) (stops : List Char)
    (hstops : stops.all (fun x => !(x.isAlpha || x == '_')) = true) : ∀ x ∈ name, x ∉ stops := by
  rw [isMemberName, Bool.and_eq_true] at h
  intro x hx hstop
  have hname := List.all_eq_true.mp h.2 x hx
  have hnot := List.all_eq_true.mp hstops x hstop
  rw [hname] at hnot
  exact nomatch hnot

theorem isGap_of_isMemberName (h : isMemberName name = true) : ∀ x ∈ name, isGap x = false := by
  intro x hx
  have hstop := not_mem_of_isMemberName h
    [' ', '\t', '\n', '\r', '\u0085', '\u2028', '\u2029'] (by decide) x hx
  rw [isGap, isBlank, isBreak]
  simp only [List.mem_cons, List.not_mem_nil, or_false, not_or] at hstop
  simp only [beq_eq_false_iff_ne.mpr, hstop, ne_eq, not_false_eq_true, Bool.or_self]

theorem ne_of_isMemberName (h : isMemberName name = true) (y : Char)
    (hy : (y.isAlpha || y == '_') = false) : ∀ x ∈ name, x ≠ y := by
  intro x hx heq
  exact not_mem_of_isMemberName h [y] (by rw [List.all_cons, hy]; rfl) x hx
    (heq ▸ List.mem_cons_self)

theorem beginsToken_name (h : isMemberName name = true) (more : List Char) :
    ∀ x ∈ (name ++ more).head?, beginsToken x = true := by
  obtain ⟨x, name', rfl⟩ := List.exists_cons_of_ne_nil
    (List.ne_nil_of_length_pos (length_of_isMemberName h).1)
  exact forall_head (beginsToken_iff.mpr ⟨isGap_of_isMemberName h x List.mem_cons_self,
    ne_of_isMemberName h '#' rfl x List.mem_cons_self,
    ne_of_isMemberName h '\uFEFF' rfl x List.mem_cons_self⟩)

/-- The layout behind a name that may turn out to be a key. -/
def behindName (l : Layout) (name : List Char) : Layout :=
  { l with
    cursor := l.cursor.past name
    tokens := (.scalar name true, l.cursor.mark) :: l.tokens
    pending := some ⟨l.tokens.length, !l.inFlow && l.margin == l.cursor.mark.column + 1, l.cursor⟩
    keyAllowed := false }

variable {l : Layout} {p : Place}

theorem Stands.saveKey (h : l.Stands p) (hallowed : p.allowed = true) : l.saveKey = .ok { l with
    pending := some
      ⟨l.tokens.length, !l.inFlow && l.margin == l.cursor.mark.column + 1, l.cursor⟩ } := by
  have hnot : ¬(!l.keyAllowed) = true := by
    rw [h.allowed, hallowed]
    exact Bool.false_ne_true
  rw [Layout.saveKey, if_neg hnot, Layout.dropKey, h.pending]
  rfl

/-- A name is read as a scalar, and kept in mind as a key. -/
theorem Stands.readHere_name (h : l.Stands p) (hallowed : p.allowed = true)
    (hname : isMemberName name = true) (hrest : p.rest = name ++ ':' :: more)
    (hmore : gapOrEnd more = true) : l.readHere = .ok (l.behindName name) := by
  obtain ⟨x, name', rfl⟩ := List.exists_cons_of_ne_nil
    (List.ne_nil_of_length_pos (length_of_isMemberName hname).1)
  have hhere : l.cursor.rest = x :: (name' ++ ':' :: more) := h.rest.trans hrest
  have hx := ne_of_isMemberName hname
  have hdocument : l.cursor.atDocumentMark = false := by
    rw [Cursor.atDocumentMark, Cursor.atMarker_of_head hhere (hx '-' rfl x List.mem_cons_self),
      Cursor.atMarker_of_head hhere (hx '.' rfl x List.mem_cons_self)]
    rfl
  have hread : Plain.read l.inFlow l.margin l.cursor
      = .ok ⟨x :: name', false, l.cursor.past (x :: name')⟩ := by
    rw [h.inFlow]
    exact Plain.read_name (fun y hy => ⟨isGap_of_isMemberName hname y hy, hx ':' rfl y hy⟩) hmore
      (h.rest.trans hrest)
  rw [readHere_plain hhere h.inFlow (isGap_of_isMemberName hname x List.mem_cons_self)
      (not_mem_of_isMemberName hname _ (by rw [Written.leadingIndicators_eq]; decide) x
        List.mem_cons_self)
      (fun hmarks => ?_) hdocument,
    Layout.plain, h.saveKey hallowed]
  · show (Plain.read l.inFlow l.margin l.cursor).bind _ = _
    rw [hread]
    rfl
  · rcases hmarks with rfl | rfl | rfl
    · exact absurd rfl (hx '-' rfl '-' List.mem_cons_self)
    · exact absurd rfl (hx '?' rfl '?' List.mem_cons_self)
    · exact absurd rfl (hx ':' rfl ':' List.mem_cons_self)

/-- A name is short enough for its colon to make it a key. -/
theorem Stands.dropExpired_behindName (h : l.Stands p) (hname : isMemberName name = true) :
    (l.behindName name).dropExpired = .ok (l.behindName name) := by
  refine dropExpired_eq (fun k hk => ?_) fun k hk => ?_
  · rw [← Option.some.inj hk]
    show (l.cursor.mark.line < (l.cursor.past name).mark.line
      || l.cursor.index + PendingKey.reach < l.cursor.index + name.length) = false
    rw [Cursor.past_line fun x hx => isBreak_eq_false_of_isGap (isGap_of_isMemberName hname x hx)]
    have hlength := (length_of_isMemberName hname).2
    rw [Bool.or_eq_false_iff, decide_eq_false_iff_not, decide_eq_false_iff_not]
    omega
  · rw [show (l.behindName name).outerPending = l.outerPending from rfl, h.outerPending] at hk
    exact nomatch hk

/-- Nothing is skipped between a name and its colon. -/
theorem Stands.toNext_behindName (h : l.Stands p) (hname : isMemberName name = true)
    (hrest : p.rest = name ++ ':' :: more) (hmargin : p.margin ≤ p.column + 1) :
    (l.behindName name).toNext = .ok (l.behindName name) := by
  have hbehind : (l.behindName name).cursor.rest = ':' :: more :=
    Cursor.past_rest (h.rest.trans hrest)
  have hskip : skipGaps (l.behindName name).inFlow ((l.behindName name).cursor.rest.length + 1)
      (l.behindName name).keyAllowed (l.behindName name).cursor
        = (false, (l.behindName name).cursor) :=
    skipGaps_spaces (n := 0) hbehind (forall_head rfl) _
  have hcolumn : (l.behindName name).margin ≤ (l.behindName name).cursor.mark.column + 1 := by
    show l.margin ≤ (l.cursor.past name).mark.column + 1
    rw [Cursor.past_column fun x hx => isBreak_eq_false_of_isGap (isGap_of_isMemberName hname x hx),
      h.margin, h.column]
    omega
  rw [Layout.toNext, hskip]
  show ((l.behindName name).dropExpired).bind _ = _
  rw [h.dropExpired_behindName hname]
  exact congrArg Except.ok (closeBlocks_of_le hcolumn)

/-- A token is put in front of the tokens from a position on. -/
theorem insert_eq (after before : List (Token × Mark)) (h : l.tokens = after ++ before) (t : Token)
    (m : Mark) : l.insert before.length t m = { l with tokens := after ++ (t, m) :: before } := by
  rw [insert, h, List.length_append, Nat.add_sub_cancel, List.take_left, List.drop_left]

theorem openBlock_of_lt {m : Mark} (h : m.column < l.margin) (t : Token) (position : Option Nat) :
    l.openBlock m t position = l :=
  if_pos (by rw [Bool.or_eq_true]; exact .inr (decide_eq_true h))

theorem openBlock_of_le {m : Mark} (hflow : l.inFlow = false) (h : l.margin ≤ m.column) (t : Token)
    (n : Nat) : l.openBlock m t (some n) = { l with
      margin := m.column + 1
      outerMargins := l.margin :: l.outerMargins }.insert n t m := by
  rw [openBlock, hflow, Bool.false_or, if_neg (by rw [decide_eq_true_iff]; exact Nat.not_lt.mpr h)]

/-- The layout behind a name with the token of the key put in front of it. -/
def withKey (l : Layout) (name : List Char) : Layout :=
  { l.behindName name with
    tokens := (.scalar name true, l.cursor.mark) :: (.key, l.cursor.mark) :: l.tokens }

theorem insert_key (l : Layout) (name : List Char) :
    (l.behindName name).insert l.tokens.length .key l.cursor.mark = l.withKey name :=
  insert_eq (l := l.behindName name) [(.scalar name true, l.cursor.mark)] l.tokens rfl _ _

theorem openBlock_withKey (name : List Char) (hflow : l.inFlow = false)
    (h : l.margin ≤ l.cursor.mark.column) :
    (l.withKey name).openBlock l.cursor.mark .blockMapping (some l.tokens.length)
      = { l.withKey name with
          tokens := [(.scalar name true, l.cursor.mark), (.key, l.cursor.mark)]
            ++ (.blockMapping, l.cursor.mark) :: l.tokens
          margin := l.cursor.mark.column + 1
          outerMargins := l.margin :: l.outerMargins } :=
  (openBlock_of_le (l := l.withKey name) hflow h _ _).trans (insert_eq _ l.tokens rfl _ _)

theorem value_behindName (l : Layout) (name : List Char) : (l.behindName name).value
    = .ok ({ ((l.withKey name).openBlock l.cursor.mark .blockMapping (some l.tokens.length)) with
        pending := none, keyAllowed := false }.indicator .value 1) := by
  rw [← insert_key]
  rfl

/-- The colon behind a name makes it a key. Where no block has the column of the name yet, a mapping
begins with it. -/
theorem Stands.readHere_behindName (h : l.Stands p) (hname : isMemberName name = true)
    (hrest : p.rest = name ++ ':' :: more) (hmore : gapOrEnd more = true) :
    ∃ m, (l.behindName name).readHere = .ok m ∧ m.Stands (p.behindKey name more) := by
  have hbehind : (l.behindName name).cursor.rest = ':' :: more :=
    Cursor.past_rest (h.rest.trans hrest)
  have hcolumn : ((l.behindName name).cursor.skip 1).mark.column = p.column + name.length + 1 := by
    rw [Cursor.skip_one_column hbehind rfl, ← h.column]
    exact congrArg (· + 1) (Cursor.past_column fun x hx =>
      isBreak_eq_false_of_isGap (isGap_of_isMemberName hname x hx))
  refine ⟨_, (readHere_colon hbehind hmore).trans (value_behindName l name), ?_⟩
  rw [Place.behindKey, Place.openMapping]
  by_cases hinside : p.column < p.margin
  · -- The mapping with this column is around the name already.
    rw [if_pos hinside, openBlock_of_lt (l := l.withKey name) (h.column ▸ h.margin ▸ hinside)]
    exact ⟨congrArg ([Token.value, .scalar name true, .key] ++ ·) h.kinds, h.margin, h.outer, rfl,
      h.outerPending, rfl, hcolumn, Cursor.skip_one_rest hbehind⟩
  · -- The token of the mapping is put in front of those of the key and the name.
    have hle : l.margin ≤ l.cursor.mark.column := by
      rw [h.margin, h.column]
      exact Nat.not_lt.mp hinside
    rw [if_neg hinside, openBlock_withKey name h.inFlow hle]
    exact ⟨congrArg ([Token.value, .scalar name true, .key, .blockMapping] ++ ·) h.kinds,
      congrArg (· + 1) h.column, congrArg₂ List.cons h.margin h.outer, rfl, h.outerPending, rfl,
      hcolumn, Cursor.skip_one_rest hbehind⟩

/-- A name and its colon are read in two steps. -/
theorem Ready.steps_key (h : l.Ready p) (hallowed : p.allowed = true)
    (hname : isMemberName name = true) (hrest : p.rest = name ++ ':' :: more)
    (hmore : gapOrEnd more = true) (hmargin : p.margin ≤ p.column + 1) :
    ∃ m, Steps 2 l m ∧ m.Stands (p.behindKey name more) := by
  have hne : p.rest ≠ [] := by
    rw [hrest]
    exact List.append_ne_nil_of_right_ne_nil _ (List.cons_ne_nil ':' more)
  obtain ⟨next, hnext, hadvance⟩ := h.advance hne
  obtain ⟨m, hread, hm⟩ := hnext.readHere_behindName hname hrest hmore
  refine ⟨m, ⟨next.behindName name, ?_, m, ?_, rfl⟩, hm⟩
  · rw [hadvance, hnext.readHere_name hallowed hname hrest hmore]
    show ((next.behindName name).dropExpired).map _ = _
    rw [hnext.dropExpired_behindName hname]
    rfl
  · have hbehind : (next.behindName name).cursor.rest = ':' :: more :=
      Cursor.past_rest (hnext.rest.trans hrest)
    rw [Layout.advance, hnext.toNext_behindName hname hrest hmargin]
    show (if (next.behindName name).cursor.rest.isEmpty = true then _ else _) = _
    rw [hbehind, List.isEmpty_cons, if_neg Bool.false_ne_true, hread]
    show (m.dropExpired).bind _ = _
    rw [hm.dropExpired]
    rfl

end

end Layout

end ReleaseGate.Yaml
