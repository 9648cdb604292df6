import ReleaseGate.Proofs.Yaml.Words
import ReleaseGate.Yaml.Token.Stream

/-!
# Steps — reading token by token from line to line

How a layout is read on depends on what is left, on the column, on the margins of the blocks and on
whether a key may begin; of its tokens only the kinds matter. A `Place` holds just that. A layout is
ready at a place when the gap behind the last token leads there, and the blocks that end before it
have been closed. What is read is shown as a chain of places, and as many steps as there are
characters are enough for it.
-/

namespace ReleaseGate.Yaml

open Written (spaces)

namespace Layout

/-! ## Gaps between tokens -/

section

variable {c : Cursor} {flow allowed : Bool} {n : Nat} {more : List Char}

/-- Spaces lead to the token behind them. -/
theorem skipGaps_spaces (hrest : c.rest = spaces n ++ more)
    (hmore : ∀ x ∈ more.head?, beginsToken x = true) (fuel : Nat) :
    skipGaps flow (fuel + 1) allowed c = (allowed, c.past (spaces n)) := by
  have hbom : c.at? '\uFEFF' = false := by
    cases n with
    | zero =>
        rw [Cursor.at?, hrest]
        refine beq_eq_false_iff_ne.mpr fun h => ?_
        exact (beginsToken_iff.mp (hmore _ h)).2.2 rfl
    | succ n => exact Cursor.at?_cons hrest _
  have hskip : c.skipWhile (fun x => x == ' ' || ((flow || !allowed) && x == '\t'))
      = c.past (spaces n) := by
    refine Cursor.skipWhile_eq hrest (forall_mem_spaces rfl) fun x hx => ?_
    have hgap := (beginsToken_iff.mp (hmore x hx)).1
    rw [beq_eq_false_iff_ne.mpr (ne_space_of_isGap hgap),
      beq_eq_false_iff_ne.mpr (ne_tab_of_isGap hgap), Bool.and_false]
    rfl
  have hbehind : (c.past (spaces n)).rest = more := Cursor.past_rest hrest
  have hcomment : (c.past (spaces n)).skipComment = c.past (spaces n) :=
    Cursor.skipComment_of_head fun x hx =>
      (beginsToken_iff.mp (hmore x (hbehind ▸ hx))).2.1
  have hbreak : (c.past (spaces n)).lineBreak = [] := Cursor.lineBreak_of_head fun x hx =>
    isBreak_eq_false_of_isGap (beginsToken_iff.mp (hmore x (hbehind ▸ hx))).1
  rw [skipGaps, hbom, Bool.and_false, if_neg Bool.false_ne_true, hskip, hcomment, hbreak]
  rfl

/-- The end of a line leads to the token in the next one, where a key may begin. -/
theorem skipGaps_line (hrest : c.rest = '\n' :: (spaces n ++ more))
    (hmore : ∀ x ∈ more.head?, beginsToken x = true) (fuel : Nat) :
    skipGaps false (fuel + 2) allowed c = (true, (c.past ['\n']).past (spaces n)) := by
  have hskip : c.skipWhile (fun x => x == ' ' || ((false || !allowed) && x == '\t')) = c :=
    Cursor.skipWhile_of_head (by rw [hrest]; exact forall_head (Bool.and_false _))
  have hcomment : c.skipComment = c :=
    Cursor.skipComment_of_head (by rw [hrest]; exact forall_head (by decide))
  have hbreak : c.lineBreak = ['\n'] := Cursor.lineBreak_of_break hrest rfl (by decide)
  rw [skipGaps, Cursor.at?_cons hrest, show ('\n' == '\uFEFF') = false from rfl, Bool.and_false,
    if_neg Bool.false_ne_true, hskip, hcomment, hbreak, List.isEmpty_cons,
    if_neg Bool.false_ne_true, skipGaps_spaces (Cursor.past_one_rest hrest) hmore]
  cases allowed <;> rfl

end

/-! ## Places -/

/-- What of a layout tells how it is read on. -/
structure Place where
  /-- The tokens so far without their marks, the last one first. -/
  kinds : List Token
  margin : Nat
  outer : List Nat
  allowed : Bool
  column : Nat
  rest : List Char

/-- End blocks until the margin is no more than the given one. -/
def closeKinds (least : Nat) (kinds : List Token) (margin : Nat) :
    List Nat → List Token × Nat × List Nat
  | [] => (kinds, margin, [])
  | next :: outer =>
    if least < margin then closeKinds least (.blockEnd :: kinds) next outer
    else (kinds, margin, next :: outer)

/-- The place with the blocks closed that are further in than a margin. -/
def Place.closeTo (p : Place) (least : Nat) : Place :=
  let closed := closeKinds least p.kinds p.margin p.outer
  { p with kinds := closed.1, margin := closed.2.1, outer := closed.2.2 }

/-- The place with the blocks closed that are further in than its column. -/
def Place.close (p : Place) : Place :=
  p.closeTo (p.column + 1)

/-- The layout is at a place in a block, and no key is pending. -/
structure Stands (l : Layout) (p : Place) : Prop where
  kinds : l.tokens.map Prod.fst = p.kinds
  margin : l.margin = p.margin
  outer : l.outerMargins = p.outer
  pending : l.pending = none
  outerPending : l.outerPending = []
  allowed : l.keyAllowed = p.allowed
  column : l.cursor.mark.column = p.column
  rest : l.cursor.rest = p.rest

/-- The next token begins at a place. -/
def Ready (l : Layout) (p : Place) : Prop :=
  ∃ m, l.toNext = .ok m ∧ m.Stands p

section

variable {l : Layout} {p : Place}

theorem Stands.inFlow (h : l.Stands p) : l.inFlow = false := by
  rw [Layout.inFlow, h.outerPending]
  rfl

theorem mapM_unexpired {c : Cursor} {outer : List (Option PendingKey)}
    (h : ∀ k ∈ outer, k = none) : outer.mapM (unexpired c) = .ok outer := by
  induction outer with
  | nil => rfl
  | cons k outer ih =>
      obtain ⟨hk, hrest⟩ := List.forall_mem_cons.mp h
      rw [List.mapM_cons, hk, ih hrest]
      rfl

/-- A pending key that is not too far back is not forgotten. -/
theorem dropExpired_eq (hpending : ∀ k ∈ l.pending, k.expired l.cursor = false)
    (houter : ∀ k ∈ l.outerPending, k = none) : l.dropExpired = .ok l := by
  have hunexpired : unexpired l.cursor l.pending = .ok l.pending := by
    cases hkey : l.pending with
    | none => rfl
    | some k =>
        rw [unexpired, hpending k hkey]
        rfl
  rw [dropExpired, hunexpired, mapM_unexpired houter]
  rfl

theorem Stands.dropExpired (h : l.Stands p) : l.dropExpired = .ok l := by
  refine dropExpired_eq (fun k hk => ?_) fun k hk => ?_
  · rw [h.pending] at hk
    exact nomatch hk
  · rw [h.outerPending] at hk
    exact nomatch hk

theorem Stands.dropKey (h : l.Stands p) : l.dropKey = .ok l := by
  rw [Layout.dropKey, h.pending]

theorem closeFrom_kinds (m : Mark) (least : Nat) (outer : List Nat) :
    ∀ (tokens : List (Token × Mark)) (margin : Nat),
      ((closeFrom m least tokens margin outer).1.map Prod.fst,
        (closeFrom m least tokens margin outer).2)
        = closeKinds least (tokens.map Prod.fst) margin outer := by
  induction outer with
  | nil => exact fun _ _ => rfl
  | cons next outer ih =>
      intro tokens margin
      rw [closeFrom, closeKinds]
      split
      · exact ih ((.blockEnd, m) :: tokens) next
      · rfl

/-- To close blocks changes the tokens and the margins only. -/
theorem Stands.closeBlocks (h : l.Stands p) (least : Nat) :
    (l.closeBlocks least).Stands (p.closeTo least) := by
  have hclosed := closeFrom_kinds l.cursor.mark least l.outerMargins l.tokens l.margin
  rw [h.kinds, h.margin, h.outer] at hclosed
  rw [Layout.closeBlocks, h.inFlow, if_neg Bool.false_ne_true, h.margin, h.outer]
  exact ⟨congrArg Prod.fst hclosed, congrArg (·.2.1) hclosed, congrArg (·.2.2) hclosed, h.pending,
    h.outerPending, h.allowed, h.column, h.rest⟩

/-- The gap behind a token is skipped, and blocks that end there are closed. -/
theorem Stands.ready {c : Cursor} {allowed : Bool} (h : l.Stands p)
    (hskip : skipGaps false (l.cursor.rest.length + 1) l.keyAllowed l.cursor = (allowed, c)) :
    l.Ready ({ p with
      allowed := allowed, column := c.mark.column, rest := c.rest } : Place).close := by
  have hstands : ({ l with keyAllowed := allowed, cursor := c } : Layout).Stands
      { p with allowed := allowed, column := c.mark.column, rest := c.rest } :=
    ⟨h.kinds, h.margin, h.outer, h.pending, h.outerPending, rfl, rfl, rfl⟩
  refine ⟨_, ?_, hstands.closeBlocks _⟩
  rw [toNext, h.inFlow, hskip]
  show (({ l with keyAllowed := allowed, cursor := c } : Layout).dropExpired).bind _ = _
  rw [hstands.dropExpired]
  rfl

variable {n : Nat} {more : List Char}

theorem Stands.ready_of_spaces (h : l.Stands p) (hrest : p.rest = spaces n ++ more)
    (hmore : ∀ x ∈ more.head?, beginsToken x = true) :
    l.Ready ({ p with column := p.column + n, rest := more } : Place).close := by
  have hspaces : l.cursor.rest = spaces n ++ more := h.rest.trans hrest
  have hready := h.ready (skipGaps_spaces hspaces hmore _)
  rwa [h.allowed, Cursor.past_rest hspaces, Cursor.past_column (forall_mem_spaces rfl), h.column,
    length_spaces] at hready

/-- Where the next token is at hand, only blocks may have to be closed. -/
theorem Stands.ready_here (h : l.Stands p) (hrest : ∀ x ∈ p.rest.head?, beginsToken x = true) :
    l.Ready p.close :=
  h.ready_of_spaces (n := 0) rfl hrest

theorem Stands.ready_of_line (h : l.Stands p) (hrest : p.rest = '\n' :: (spaces n ++ more))
    (hmore : ∀ x ∈ more.head?, beginsToken x = true) :
    l.Ready ({ p with allowed := true, column := n, rest := more } : Place).close := by
  have hline : l.cursor.rest = '\n' :: (spaces n ++ more) := h.rest.trans hrest
  have hbehind := Cursor.past_one_rest hline
  have hfuel : l.cursor.rest.length + 1 = (spaces n ++ more).length + 2 := by
    rw [hline, List.length_cons]
  have hskip : skipGaps false (l.cursor.rest.length + 1) l.keyAllowed l.cursor
      = (true, (l.cursor.past ['\n']).past (spaces n)) := by
    rw [hfuel]
    exact skipGaps_line hline hmore _
  have hready := h.ready hskip
  rwa [Cursor.past_rest hbehind, Cursor.past_column (forall_mem_spaces rfl), length_spaces,
    show ((l.cursor.past ['\n']).mark.column) = 0 from rfl, Nat.zero_add] at hready

end

theorem closeKinds_of_le {least margin : Nat} (h : margin ≤ least) (kinds : List Token)
    (outer : List Nat) : closeKinds least kinds margin outer = (kinds, margin, outer) := by
  cases outer with
  | nil => rfl
  | cons next outer => rw [closeKinds, if_neg (Nat.not_lt.mpr h)]

theorem Place.close_of_le {p : Place} (h : p.margin ≤ p.column + 1) : p.close = p := by
  rw [Place.close, Place.closeTo, closeKinds_of_le h]

/-! ## Chains of steps -/

/-- So many tokens are read. -/
def Steps : Nat → Layout → Layout → Prop
  | 0, l, l' => l = l'
  | n + 1, l, l' => ∃ m, l.advance = .ok (m, false) ∧ Steps n m l'

theorem Steps.trans {n m : Nat} {l l' l'' : Layout} (h : Steps n l l') (h' : Steps m l' l'') :
    Steps (n + m) l l'' := by
  induction n generalizing l with
  | zero =>
      rw [show l = l' from h, Nat.zero_add]
      exact h'
  | succ n ih =>
      obtain ⟨next, hnext, hsteps⟩ := h
      rw [Nat.add_right_comm]
      exact ⟨next, hnext, ih hsteps⟩

/-- From a layout that is ready at the first place steps lead to one that is ready at the second, and
no more of them than there are characters in between. -/
def Reads (p q : Place) : Prop :=
  ∃ n, n + q.rest.length ≤ p.rest.length ∧
    ∀ l : Layout, l.Ready p → ∃ l', Steps n l l' ∧ l'.Ready q

theorem Reads.refl (p : Place) : Reads p p :=
  ⟨0, Nat.le_of_eq (Nat.zero_add _), fun l h => ⟨l, rfl, h⟩⟩

theorem Reads.trans {p q r : Place} (h : Reads p q) (h' : Reads q r) : Reads p r := by
  obtain ⟨n, hn, hsteps⟩ := h
  obtain ⟨m, hm, hsteps'⟩ := h'
  refine ⟨n + m, by omega, fun l hl => ?_⟩
  obtain ⟨l', hl', hready⟩ := hsteps l hl
  obtain ⟨l'', hl'', hready'⟩ := hsteps' l' hready
  exact ⟨l'', hl'.trans hl'', hready'⟩

/-- A step is taken from the place where the next token begins. -/
theorem Ready.advance {l : Layout} {p : Place} (h : l.Ready p) (hne : p.rest ≠ []) :
    ∃ m : Layout, m.Stands p
      ∧ l.advance = (m.readHere >>= Layout.dropExpired).map fun next => (next, false) := by
  obtain ⟨m, hnext, hstands⟩ := h
  refine ⟨m, hstands, ?_⟩
  have hmore : m.cursor.rest.isEmpty = false := by
    rw [hstands.rest]
    exact List.isEmpty_eq_false_iff.mpr hne
  rw [Layout.advance, hnext]
  show (if m.cursor.rest.isEmpty = true then _ else _) = _
  rw [hmore, if_neg Bool.false_ne_true]
  cases m.readHere with
  | error f => rfl
  | ok next =>
      show (next.dropExpired).bind _ = (next.dropExpired).map _
      cases next.dropExpired <;> rfl

theorem advanceBefore_none (l : Layout) : Tokens.advanceBefore none l = l.advance := by
  rw [Tokens.advanceBefore.eq_def]

/-- A chain of places is read in as many steps. -/
theorem readFrom_steps {n : Nat} {l l' : Layout} (h : Steps n l l') (fuel : Nat) :
    Tokens.readFrom none (n + fuel) l = Tokens.readFrom none fuel l' := by
  induction n generalizing l with
  | zero =>
      rw [show l = l' from h, Nat.zero_add]
  | succ n ih =>
      obtain ⟨next, hnext, hsteps⟩ := h
      rw [Nat.add_right_comm, Tokens.readFrom, advanceBefore_none, hnext]
      exact ih hsteps

/-- At the end of the text all blocks end. -/
theorem Stands.finish {l : Layout} {p : Place} (h : l.Stands p) :
    ∃ m, l.finish = .ok m ∧ m.dropExpired = .ok m
      ∧ m.tokens.map Prod.fst = (p.closeTo 0).kinds := by
  -- The mark goes to the start of a line, which changes neither the tokens nor the margins.
  obtain ⟨moved, hmoved⟩ : ∃ moved : Layout, moved = { l with cursor := { l.cursor with
      mark := if l.cursor.mark.column == 0 then l.cursor.mark else l.cursor.mark.nextLine } } :=
    ⟨_, rfl⟩
  have hstands : moved.Stands { p with column := moved.cursor.mark.column } := by
    rw [hmoved]
    exact ⟨h.kinds, h.margin, h.outer, h.pending, h.outerPending, h.allowed, rfl, h.rest⟩
  have hclosed := hstands.closeBlocks 0
  have hlast : ({ moved.closeBlocks 0 with keyAllowed := false } : Layout).Stands
      { ({ p with column := moved.cursor.mark.column } : Place).closeTo 0 with allowed := false } :=
    ⟨hclosed.kinds, hclosed.margin, hclosed.outer, hclosed.pending, hclosed.outerPending, rfl,
      hclosed.column, hclosed.rest⟩
  refine ⟨_, ?_, hlast.dropExpired, hlast.kinds⟩
  rw [Layout.finish, ← hmoved, leaveBlocks, hclosed.dropKey]
  rfl

/-- Where nothing is left the text is read to its end. -/
theorem Ready.readFrom_end {l : Layout} {p : Place} (h : l.Ready p) (hrest : p.rest = [])
    (fuel : Nat) :
    ∃ tokens m, Tokens.readFrom none (fuel + 1) l = Tokens.behind tokens (.finished m)
      ∧ tokens.map Prod.fst = (p.closeTo 0).kinds := by
  obtain ⟨next, hnext, hstands⟩ := h
  obtain ⟨last, hfinish, hexpired, hkinds⟩ := hstands.finish
  have hempty : next.cursor.rest.isEmpty = true := by
    rw [hstands.rest, hrest]
    rfl
  have hadvance : l.advance = .ok (last, true) := by
    rw [Layout.advance, hnext]
    show (if next.cursor.rest.isEmpty = true then next.finish.bind _ else _) = _
    rw [if_pos hempty, hfinish]
    show (last.dropExpired).bind _ = _
    rw [hexpired]
    rfl
  refine ⟨last.tokens, last.cursor.mark, ?_, hkinds⟩
  rw [Tokens.readFrom, advanceBefore_none, hadvance]

/-- One step reads the token at the place. -/
theorem Ready.step {l : Layout} {p : Place} (h : l.Ready p) (hne : p.rest ≠ []) :
    ∃ next : Layout, next.Stands p
      ∧ ∀ {m : Layout} {q : Place}, next.readHere = .ok m → m.Stands q → Steps 1 l m := by
  obtain ⟨next, hnext, hadvance⟩ := h.advance hne
  refine ⟨next, hnext, fun hread hm => ⟨_, ?_, rfl⟩⟩
  rw [hadvance, hread]
  show (Layout.dropExpired _).map _ = _
  rw [hm.dropExpired]
  rfl

end Layout

end ReleaseGate.Yaml
