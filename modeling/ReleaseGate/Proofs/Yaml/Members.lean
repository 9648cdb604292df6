import ReleaseGate.Proofs.Yaml.Values

/-!
# Members — lines of mappings and entries of lists, as chains of places

Each kind of line leads from the place at its start to the place at the start of the line behind it,
with its tokens put before those that were there. A value's line may be indented less than the name's
only by ending blocks.
-/

namespace ReleaseGate.Yaml

open Written (spaces)

namespace Layout

variable {p : Place} {name more : List Char} {k : Nat}

theorem Place.openMapping_margin (h : p.margin ≤ p.column + 1) :
    p.openMapping.margin = p.column + 1 := by
  rw [openMapping]
  split
  · rename_i hinside
    exact Nat.le_antisymm h hinside
  · rfl

/-- A member with a text. -/
theorem reads_member {text : String} (hallowed : p.allowed = true)
    (hname : isMemberName name = true) (hmargin : p.margin ≤ p.column + 1) (hk : k ≤ p.column)
    (hmore : ∀ x ∈ more.head?, beginsToken x = true)
    (hrest : p.rest = name ++ ':' :: (Written.value (p.column + 2) text ++ (spaces k ++ more))) :
    Reads p ({ p.openMapping with
      kinds := Written.token text :: .value :: .scalar name true :: .key :: p.openMapping.kinds
      allowed := true
      column := k
      rest := more } : Place).close := by
  have hbody : Written.value (p.column + 2) text ++ (spaces k ++ more)
      = spaces 1 ++ (Written.body (p.column + 2) text.toList ++ (spaces k ++ more)) := rfl
  have hopen := Place.openMapping_margin hmargin
  refine ⟨3, ?_, fun l hl => ?_⟩
  · have hlength := (length_of_isMemberName hname).1
    rw [hrest, hbody]
    show 3 + more.length ≤ _
    simp only [List.length_append, List.length_cons, length_spaces]
    omega
  · obtain ⟨m, hsteps, hm⟩ := hl.steps_key hallowed hname hrest rfl hmargin
    have hready := hm.ready_of_spaces hbody (Written.beginsToken_body _ text.toList _)
    -- The value begins inside the mapping, so that no block ends before it.
    have hinside : p.openMapping.margin ≤ p.column + name.length + 1 + 1 := by omega
    have hline : k < p.openMapping.margin := by omega
    have hvalue : Written.body (p.column + 2) text.toList ++ (spaces k ++ more)
        = Written.body (p.openMapping.margin + 1) text.toList ++ (spaces k ++ more) := by
      rw [hopen]
    rw [Place.close_of_le (Nat.le_succ_of_le hinside)] at hready
    obtain ⟨m', hsteps', hm'⟩ :=
      hready.steps_value rfl (Nat.zero_lt_of_lt hline) hinside hmore hline hvalue
    exact ⟨m', hsteps.trans hsteps', hm'⟩

/-- A name whose value begins in the next line. -/
theorem reads_nested (hallowed : p.allowed = true) (hname : isMemberName name = true)
    (hmargin : p.margin ≤ p.column + 1) (hmore : ∀ x ∈ more.head?, beginsToken x = true)
    (hrest : p.rest = name ++ ':' :: '\n' :: (spaces k ++ more)) :
    Reads p ({ p.openMapping with
      kinds := .value :: .scalar name true :: .key :: p.openMapping.kinds
      allowed := true
      column := k
      rest := more } : Place).close := by
  refine ⟨2, ?_, fun l hl => ?_⟩
  · have hlength := (length_of_isMemberName hname).1
    rw [hrest]
    show 2 + more.length ≤ _
    simp only [List.length_append, List.length_cons]
    omega
  · obtain ⟨m, hsteps, hm⟩ := hl.steps_key hallowed hname hrest rfl hmargin
    exact ⟨m, hsteps, hm.ready_of_line rfl hmore⟩

/-! ## Lists -/

section

variable {l : Layout}

theorem readHere_entry (h : l.cursor.rest = '-' :: ' ' :: more) (hflow : l.inFlow = false) :
    l.readHere = l.entry := by
  have hmark : l.cursor.atMarker '-' = false := by
    rw [Cursor.atMarker, h]
    cases more with
    | nil => exact Bool.and_false _
    | cons x more =>
        show (_ && ('-' == '-' && ' ' == '-' && x == '-' && gapOrEnd more)) = false
        rw [show (' ' == '-') = false from rfl, Bool.and_false, Bool.false_and, Bool.false_and,
          Bool.and_false]
  simp only [readHere, atIndicator, Cursor.at?_cons h, hmark, Cursor.atMarker_of_head h, ne_eq,
    Char.reduceEq, Char.reduceBEq, not_false_eq_true, Bool.and_false, Bool.false_and, Bool.true_and,
    Bool.false_eq_true, if_false, if_true, h, List.drop, hflow, Bool.or_true,
    show gapOrEnd (' ' :: more) = true from rfl]

/-- The hyphen of an entry in a list that is indented no further than its name. -/
theorem reads_entry (hallowed : p.allowed = true) (hinside : p.column < p.margin)
    (hmore : ∀ x ∈ more.head?, beginsToken x = true) (hrest : p.rest = '-' :: ' ' :: more) :
    Reads p ({ p with
      kinds := .entry :: p.kinds, column := p.column + 2, rest := more } : Place).close := by
  refine ⟨1, ?_, fun l hl => ?_⟩
  · rw [hrest]
    show 1 + more.length ≤ more.length + 1 + 1
    omega
  · obtain ⟨next, hnext, hstep⟩ := hl.step (by rw [hrest]; exact List.cons_ne_nil _ _)
    have hhere : next.cursor.rest = '-' :: ' ' :: more := hnext.rest.trans hrest
    have hlt : next.cursor.mark.column < next.margin := by
      rw [hnext.column, hnext.margin]
      exact hinside
    have hentry : next.entry
        = .ok ({ next with keyAllowed := true }.indicator .entry 1) := by
      rw [entry, blockIndicator, openBlock_of_lt hlt, hnext.dropKey, hnext.inFlow, hnext.allowed,
        hallowed]
      rfl
    have hbehind : ({ next with keyAllowed := true }.indicator .entry 1).Stands { p with
        kinds := .entry :: p.kinds
        column := p.column + 1
        rest := ' ' :: more } :=
      ⟨congrArg (Token.entry :: ·) hnext.kinds, hnext.margin, hnext.outer, hnext.pending,
        hnext.outerPending, hallowed.symm,
        (Cursor.skip_one_column hhere rfl).trans (congrArg (· + 1) hnext.column),
        Cursor.skip_one_rest hhere⟩
    exact ⟨_, hstep ((readHere_entry hhere hnext.inFlow).trans hentry) hbehind,
      hbehind.ready_of_spaces (n := 1) rfl hmore⟩

theorem readHere_open (h : l.cursor.rest = '[' :: more) :
    l.readHere = l.openFlow .flowSequence := by
  simp only [readHere, Cursor.at?_cons h, Cursor.atMarker_of_head h, ne_eq, Char.reduceEq,
    Char.reduceBEq, not_false_eq_true, Bool.and_false, Bool.false_eq_true, if_false, if_true]

theorem readHere_close (h : l.cursor.rest = ']' :: more) :
    l.readHere = l.closeFlow .flowSequenceEnd := by
  simp only [readHere, Cursor.at?_cons h, Cursor.atMarker_of_head h, ne_eq, Char.reduceEq,
    Char.reduceBEq, not_false_eq_true, Bool.and_false, Bool.false_eq_true, if_false, if_true]

/-- The layout behind the bracket that begins a list. -/
def behindBracket (l : Layout) : Layout :=
  { l with pending := none, outerPending := [none], keyAllowed := true }.indicator .flowSequence 1

/-- The layout behind both brackets of a list without entries. -/
def behindBrackets (l : Layout) : Layout :=
  { l.behindBracket with outerPending := [], keyAllowed := false }.indicator .flowSequenceEnd 1

theorem dropExpired_behindBracket (l : Layout) :
    l.behindBracket.dropExpired = .ok l.behindBracket :=
  dropExpired_eq nofun fun _ hk => List.mem_singleton.mp hk

/-- Nothing is skipped between two brackets, and no block ends there. -/
theorem toNext_behindBracket (h : l.cursor.rest = '[' :: ']' :: more) :
    l.behindBracket.toNext = .ok l.behindBracket := by
  have hbehind : l.behindBracket.cursor.rest = ']' :: more := Cursor.skip_one_rest h
  have hskip : skipGaps true (l.behindBracket.cursor.rest.length + 1) true l.behindBracket.cursor
      = (true, l.behindBracket.cursor) :=
    skipGaps_spaces (n := 0) hbehind (forall_head rfl) _
  show (do
    let l' ← ({ l.behindBracket with
      keyAllowed := (skipGaps true (l.behindBracket.cursor.rest.length + 1) true
        l.behindBracket.cursor).1
      cursor := (skipGaps true (l.behindBracket.cursor.rest.length + 1) true
        l.behindBracket.cursor).2 } : Layout).dropExpired
    pure (l'.closeBlocks _)) = _
  rw [hskip]
  show (l.behindBracket.dropExpired).bind _ = _
  rw [dropExpired_behindBracket]
  rfl

/-- A list without entries is read in two steps. -/
theorem Ready.steps_empty (h : l.Ready p) (hallowed : p.allowed = false)
    (hrest : p.rest = ['[', ']', '\n']) :
    ∃ m, Steps 2 l m ∧ m.Ready ({ p with
      kinds := .flowSequenceEnd :: .flowSequence :: p.kinds
      allowed := true
      column := 0
      rest := [] } : Place).close := by
  obtain ⟨next, hnext, hadvance⟩ := h.advance (by rw [hrest]; exact List.cons_ne_nil _ _)
  have hhere : next.cursor.rest = ['[', ']', '\n'] := hnext.rest.trans hrest
  have hbehind : next.behindBracket.cursor.rest = [']', '\n'] := Cursor.skip_one_rest hhere
  have hopen : next.openFlow .flowSequence = .ok next.behindBracket := by
    rw [openFlow, hnext.saveKey_of_value hallowed]
    show Except.ok ({ next with
      pending := none
      outerPending := next.pending :: next.outerPending
      keyAllowed := true }.indicator .flowSequence 1) = _
    rw [hnext.pending, hnext.outerPending]
    rfl
  have hclose : next.behindBracket.closeFlow .flowSequenceEnd = .ok next.behindBrackets := rfl
  have hlast : next.behindBrackets.Stands { p with
      kinds := .flowSequenceEnd :: .flowSequence :: p.kinds
      allowed := false
      column := next.behindBracket.cursor.mark.column + 1
      rest := ['\n'] } :=
    ⟨congrArg ([Token.flowSequenceEnd, .flowSequence] ++ ·) hnext.kinds, hnext.margin, hnext.outer,
      rfl, rfl, rfl, Cursor.skip_one_column hbehind rfl, Cursor.skip_one_rest hbehind⟩
  refine ⟨_, ⟨next.behindBracket, ?_, next.behindBrackets, ?_, rfl⟩,
    hlast.ready_of_line (n := 0) rfl nofun⟩
  · rw [hadvance, readHere_open hhere, hopen]
    show (next.behindBracket.dropExpired).map _ = _
    rw [dropExpired_behindBracket]
    rfl
  · rw [Layout.advance, toNext_behindBracket hhere]
    show (if next.behindBracket.cursor.rest.isEmpty = true then _ else _) = _
    rw [hbehind, List.isEmpty_cons, if_neg Bool.false_ne_true, readHere_close hbehind, hclose]
    show (next.behindBrackets.dropExpired).bind _ = _
    rw [hlast.dropExpired]
    rfl

/-- A name whose value is a list without entries, at the end of the text. -/
theorem reads_empty (hallowed : p.allowed = true) (hname : isMemberName name = true)
    (hmargin : p.margin ≤ p.column + 1) (hrest : p.rest = name ++ ':' :: [' ', '[', ']', '\n']) :
    Reads p ({ p.openMapping with
      kinds := .flowSequenceEnd :: .flowSequence :: .value :: .scalar name true :: .key
        :: p.openMapping.kinds
      allowed := true
      column := 0
      rest := [] } : Place).close := by
  have hopen := Place.openMapping_margin hmargin
  refine ⟨4, ?_, fun l hl => ?_⟩
  · rw [hrest, List.length_append]
    show 4 + 0 ≤ name.length + 5
    omega
  · obtain ⟨m, hsteps, hm⟩ := hl.steps_key hallowed hname hrest rfl hmargin
    have hready := hm.ready_of_spaces (show _ = spaces 1 ++ ['[', ']', '\n'] from rfl)
      (forall_head rfl)
    have hinside : p.openMapping.margin ≤ p.column + name.length + 1 + 1 := by omega
    rw [Place.close_of_le (Nat.le_succ_of_le hinside)] at hready
    obtain ⟨m', hsteps', hm'⟩ := hready.steps_empty rfl rfl
    exact ⟨m', hsteps.trans hsteps', hm'⟩

end

end Layout

end ReleaseGate.Yaml
