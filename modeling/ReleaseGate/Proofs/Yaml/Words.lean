import ReleaseGate.Proofs.Yaml.Places
import ReleaseGate.Yaml.Token.Plain
import ReleaseGate.Yaml.Written

/-!
# Words — texts that are written without quotes

A text without quotes is read word by word. It may be written so when no word of it can be taken for
the end of the text: a colon always has something behind it, and the mark of a comment never has a
gap before it. What ends it is the next line, which begins before the margin.
-/

namespace ReleaseGate.Yaml

open Written (spaces)

/-! ## Gaps -/

theorem forall_mem_spaces {n : Nat} {P : Char → Prop} (h : P ' ') : ∀ x ∈ spaces n, P x := by
  intro x hx
  rw [List.eq_of_mem_replicate hx]
  exact h

theorem length_spaces (n : Nat) : (spaces n).length = n :=
  List.length_replicate

/-- A character that is no carriage return is a break by itself or none. -/
theorem breaksOf_cons {c : Char} (hc : c ≠ '\r') (rest : List Char) :
    breaksOf (c :: rest) = if isBreak c then readBreak c :: breaksOf rest else breaksOf rest := by
  rw [breaksOf.eq_def]
  split
  · rename_i heq
    cases heq
  · rename_i heq
    exact absurd (List.cons.inj heq).1 hc
  · rename_i heq
    rw [(List.cons.inj heq).1, (List.cons.inj heq).2]

theorem breaksOf_of_no_break {gap : List Char} (h : ∀ x ∈ gap, isBreak x = false) :
    breaksOf gap = [] := by
  induction gap with
  | nil => rfl
  | cons c gap ih =>
      obtain ⟨hc, hrest⟩ := List.forall_mem_cons.mp h
      have hreturn : c ≠ '\r' := by
        rintro rfl
        exact nomatch hc
      rw [breaksOf_cons hreturn, hc, if_neg Bool.false_ne_true, ih hrest]

/-- Blanks alone stay as they are. -/
theorem foldGap_of_no_break {gap : List Char} (h : ∀ x ∈ gap, isBreak x = false) :
    foldGap gap = gap := by
  rw [foldGap, breaksOf_of_no_break h]

/-- The gap before a line. -/
theorem breaksOf_line (k : Nat) : breaksOf ('\n' :: spaces k) = ['\n'] := by
  rw [breaksOf_cons (by decide), breaksOf_of_no_break (forall_mem_spaces rfl)]
  rfl

theorem gapOrEnd_append_line (text more : List Char) :
    gapOrEnd (text ++ '\n' :: more) = gapOrEnd text := by
  cases text with
  | nil => rfl
  | cons c text => rfl

namespace Written

theorem isPrintable_of_isClean {text : List Char} (h : isClean text = true) :
    ∀ x ∈ text, isPrintable x = true := by
  rw [isClean, Bool.and_eq_true] at h
  exact List.all_eq_true.mp h.1

theorem ne_tab_of_isPrintable {x : Char} (h : isPrintable x = true) : x ≠ '\t' := by
  rintro rfl
  exact nomatch h

theorem ne_return_of_isPrintable {x : Char} (h : isPrintable x = true) : x ≠ '\r' := by
  rintro rfl
  exact nomatch h

/-- What can be written without quotes has neither breaks nor tabs, no space at its ends, and no
indicator. -/
theorem plainAllowed_iff {text : List Char} : plainAllowed text = true ↔
    isClean text = true ∧ (∀ x ∈ text, isBreak x = false) ∧ text.head? ≠ some ' '
      ∧ text.getLast? ≠ some ' ' ∧ beginsOtherwise text = false
      ∧ holdsIndicator true text = false := by
  simp only [plainAllowed, Bool.and_eq_true, Bool.not_eq_true', List.any_eq_false, bne_iff_ne,
    Bool.not_eq_true, and_assoc]

/-- Behind characters nothing is an indicator that was none before. -/
theorem holdsIndicator_append {u v : List Char} :
    ∀ {behindGap : Bool}, holdsIndicator behindGap (u ++ v) = false →
      holdsIndicator ((u.getLast?.map isGap).getD behindGap) v = false := by
  induction u with
  | nil => exact fun h => h
  | cons c u ih =>
      intro behindGap h
      rw [List.cons_append, holdsIndicator, Bool.or_eq_false_iff] at h
      have hu := ih h.2
      cases u with
      | nil => exact hu
      | cons d u =>
          rw [List.getLast?_cons_cons]
          rw [List.getLast?_cons] at hu ⊢
          exact hu

/-- A colon has something behind it. -/
theorem gapOrEnd_of_colon {behindGap : Bool} {u v : List Char}
    (h : holdsIndicator behindGap (u ++ ':' :: v) = false) : gapOrEnd v = false := by
  have hv := holdsIndicator_append h
  rw [holdsIndicator, Bool.or_eq_false_iff, Bool.or_eq_false_iff] at hv
  exact hv.1.1

/-- The mark of a comment has no gap before it. -/
theorem ne_hash_of_holdsIndicator {text : List Char} (h : holdsIndicator true text = false) :
    ∀ x ∈ text.head?, x ≠ '#' := by
  intro x hx
  obtain ⟨rest, hrest⟩ := List.head?_eq_some_iff.mp hx
  rw [hrest, holdsIndicator, Bool.or_eq_false_iff, Bool.or_eq_false_iff, Bool.and_true] at h
  exact ne_of_beq_false h.1.2

/-- A gap is no mark of a comment, whatever stands before it. -/
theorem holdsIndicator_of_gap {behindGap : Bool} {text : List Char}
    (hgap : ∀ x ∈ text.head?, isGap x = true) (h : holdsIndicator behindGap text = false) :
    holdsIndicator true text = false := by
  cases text with
  | nil => rfl
  | cons c text =>
      have hc : (c == '#') = false := by
        refine beq_eq_false_iff_ne.mpr ?_
        rintro rfl
        exact nomatch hgap '#' rfl
      rw [holdsIndicator, hc, Bool.false_and] at h ⊢
      exact h

end Written

/-- A printable line break is read as it is. -/
theorem readBreak_of_printable {x : Char} (hx : isPrintable x = true) (hbreak : isBreak x = true) :
    readBreak x = x := by
  rw [isBreak, Bool.or_eq_true, Bool.or_eq_true, Bool.or_eq_true, Bool.or_eq_true, beq_iff_eq,
    beq_iff_eq, beq_iff_eq, beq_iff_eq, beq_iff_eq] at hbreak
  rcases hbreak with (((rfl | rfl) | rfl) | rfl) | rfl
  · rfl
  · exact nomatch hx
  · exact nomatch hx
  · rfl
  · rfl

/-- Printable breaks are read as they are, and the indentation behind them is not read. -/
theorem breaksOf_breaks {g : List Char} (hprintable : ∀ x ∈ g, isPrintable x = true)
    (hbreak : ∀ x ∈ g, isBreak x = true) (n : Nat) : breaksOf (g ++ spaces n) = g := by
  induction g with
  | nil => exact breaksOf_of_no_break (forall_mem_spaces rfl)
  | cons x g ih =>
      obtain ⟨hx, hrest⟩ := List.forall_mem_cons.mp hprintable
      obtain ⟨hxbreak, hrestbreak⟩ := List.forall_mem_cons.mp hbreak
      rw [List.cons_append, breaksOf_cons (Written.ne_return_of_isPrintable hx), if_pos hxbreak,
        readBreak_of_printable hx hxbreak, ih hrest hrestbreak]

/-- A printable break by itself is read as it is. -/
theorem breaksOf_break {x : Char} (hprintable : isPrintable x = true) (hbreak : isBreak x = true) :
    breaksOf [x] = [x] :=
  breaksOf_breaks (List.forall_mem_singleton.mpr hprintable)
    (List.forall_mem_singleton.mpr hbreak) 0

namespace Plain

/-! ## Words -/

/-- Outside of flow collections a colon clashes with nothing. -/
theorem clashes_false (rest : List Char) : clashes false rest = false := by
  rw [clashes.eq_def]
  split
  · rfl
  · rfl

/-- Only a colon can stop a word before a gap. -/
theorem stops_cons {x : Char} {rest : List Char} (hx : isGap x = false)
    (hcolon : x = ':' → gapOrEnd rest = false) : stops false (x :: rest) = false := by
  rw [stops, hx, Bool.false_or, Bool.false_and, Bool.or_false]
  by_cases h : x = ':'
  · rw [hcolon h, Bool.and_false]
  · rw [beq_eq_false_iff_ne.mpr h, Bool.false_and]

/-- A word goes on as long as nothing stops it. -/
theorem word_eq {w more : List Char} (hmore : stops false more = true)
    (hw : ∀ x ∈ w, isGap x = false)
    (hcolon : ∀ u v, w = u ++ ':' :: v → gapOrEnd (v ++ more) = false) :
    word false (w ++ more) = w := by
  induction w with
  | nil =>
      cases more with
      | nil => rfl
      | cons x more => rw [List.nil_append, word, hmore, Bool.true_or, if_pos rfl]
  | cons x w ih =>
      obtain ⟨hx, hrest⟩ := List.forall_mem_cons.mp hw
      have hgoes : stops false (x :: (w ++ more)) = false :=
        stops_cons hx fun hx => hcolon [] w (congrArg (· :: w) hx)
      rw [List.cons_append, word, hgoes, clashes_false, Bool.or_false, if_neg Bool.false_ne_true,
        ih hrest fun u v h => hcolon (x :: u) v (congrArg (x :: ·) h)]

/-! ## Gaps between words -/

/-- Without tabs in a gap there is no stray one. -/
theorem strayTab_of_no_tab {margin : Nat} {gap : List Char} (h : ∀ x ∈ gap, x ≠ '\t') :
    ∀ (broken : Bool) (m : Mark), strayTab margin broken m gap = none := by
  intro broken m
  fun_induction strayTab margin broken m gap with
  | case1 => rfl
  | case2 broken m rest ih =>
      exact ih fun x hx => h x (List.mem_cons_of_mem _ (List.mem_cons_of_mem _ hx))
  | case3 broken m c rest hpair hbreak ih =>
      exact ih fun x hx => h x (List.mem_cons_of_mem _ hx)
  | case4 broken m c rest hpair hbreak htab =>
      rw [Bool.and_eq_true, beq_iff_eq] at htab
      exact absurd htab.2 (h c List.mem_cons_self)
  | case5 broken m c rest hpair hbreak htab ih =>
      exact ih fun x hx => h x (List.mem_cons_of_mem _ hx)

variable {margin k : Nat} {R : List Char}

/-- What is read behind the last word: the break and the indentation of the next line, which begins
before the margin. -/
theorem readMore_line (start : Mark) (fuel : Nat) {c : Cursor}
    (hrest : c.rest = '\n' :: (spaces k ++ R)) (hR : ∀ x ∈ R.head?, beginsToken x = true)
    (hk : k < margin) :
    ∃ c', readMore false margin start (fuel + 1) c = .ok ⟨[], true, c'⟩ ∧ c'.rest = R
      ∧ c'.mark.column = k := by
  have hgap : ∀ x ∈ '\n' :: spaces k, isGap x = true :=
    List.forall_mem_cons.mpr ⟨rfl, forall_mem_spaces rfl⟩
  have htab : ∀ x ∈ '\n' :: spaces k, x ≠ '\t' :=
    List.forall_mem_cons.mpr ⟨by decide, forall_mem_spaces (by decide)⟩
  have hspan : c.span isGap = ('\n' :: spaces k, c.past ('\n' :: spaces k)) :=
    Cursor.span_eq hrest hgap fun x hx => (beginsToken_iff.mp (hR x hx)).1
  have hcolumn : (c.past ('\n' :: spaces k)).mark.column = k := by
    show (c.mark.nextLine.past (spaces k)).column = k
    rw [Mark.past_of_no_break (forall_mem_spaces rfl), length_spaces]
    exact Nat.zero_add k
  have hends : endsAt false margin (c.past ('\n' :: spaces k)) = true := by
    rw [endsAt, hcolumn, decide_eq_true hk]
    rfl
  refine ⟨c.past ('\n' :: spaces k), ?_, Cursor.past_rest hrest, hcolumn⟩
  rw [readMore, clashes_false, if_neg Bool.false_ne_true, hspan]
  dsimp only
  rw [strayTab_of_no_tab htab]
  dsimp only
  rw [hends, Bool.or_true, if_pos rfl, breaksOf_line]
  rfl

/-- Behind a word without a gap nothing more is read. -/
theorem readMore_of_no_gap (start : Mark) (fuel : Nat) {c : Cursor}
    (h : ∀ x ∈ c.rest.head?, isGap x = false) :
    readMore false margin start (fuel + 1) c = .ok ⟨[], false, c⟩ := by
  have hspan : c.span isGap = ([], c) :=
    Cursor.span_eq (show c.rest = [] ++ c.rest from rfl) (List.forall_mem_nil _) h
  rw [readMore, clashes_false, if_neg Bool.false_ne_true, hspan]
  rfl

/-! ## Texts -/

/-- What is left of a text without quotes behind one of its words. -/
structure Tail (s : List Char) : Prop where
  begins : ∀ x ∈ s.head?, isGap x = true
  inner : ∀ x ∈ s, isBreak x = false ∧ x ≠ '\t'
  last : s.getLast? ≠ some ' '
  indicators : Written.holdsIndicator true s = false

/-- A gap that is not the end of the text is made of spaces, and a word stands behind it. -/
theorem Tail.exists_split {s : List Char} (h : Tail s) (hne : s ≠ []) :
    ∃ g w s', s = g ++ (w ++ s') ∧ g ≠ [] ∧ (∀ x ∈ g, x = ' ') ∧ w ≠ []
      ∧ (∀ x ∈ w, isGap x = false) ∧ Written.holdsIndicator true (w ++ s') = false ∧ Tail s' := by
  have hspace : ∀ x ∈ s, isGap x = true → x = ' ' := by
    intro x hx hgap
    obtain ⟨hbreak, htab⟩ := h.inner x hx
    rw [isGap, hbreak, Bool.or_false, isBlank, Bool.or_eq_true, beq_iff_eq, beq_iff_eq] at hgap
    exact hgap.resolve_right htab
  obtain ⟨g, t, hs, hg, ht⟩ := exists_span isGap s
  obtain ⟨w, s', ht', hw, hbegins⟩ := exists_span_not isGap t
  have hgspace : ∀ x ∈ g, x = ' ' := by
    intro x hx
    exact hspace x (hs ▸ List.mem_append_left t hx) (hg x hx)
  have hgne : g ≠ [] := by
    rintro rfl
    rw [List.nil_append] at hs
    exact hne (eq_nil_of_heads h.begins (hs ▸ ht))
  have htne : t ≠ [] := by
    rintro rfl
    rw [List.append_nil] at hs
    refine h.last ?_
    rw [hs, List.getLast?_eq_some_getLast hgne, hgspace _ (List.getLast_mem hgne)]
  have hindicators : Written.holdsIndicator true (w ++ s') = false := by
    have hbehind := Written.holdsIndicator_append (u := g) (v := t) (hs ▸ h.indicators)
    rw [List.getLast?_eq_some_getLast hgne, Option.map_some, Option.getD_some,
      hg _ (List.getLast_mem hgne), ht'] at hbehind
    exact hbehind
  refine ⟨g, w, s', by rw [hs, ht'], hgne, hgspace, ?_, hw, hindicators, hbegins, ?_, ?_, ?_⟩
  · rintro rfl
    rw [List.nil_append] at ht'
    exact htne (eq_nil_of_heads (ht' ▸ hbegins) ht)
  · intro x hx
    refine h.inner x ?_
    rw [hs, ht']
    exact List.mem_append_right g (List.mem_append_right w hx)
  · intro hlast
    refine h.last ?_
    rw [hs, ht', ← List.append_assoc, List.getLast?_append, hlast]
    rfl
  · exact Written.holdsIndicator_of_gap hbegins (Written.holdsIndicator_append hindicators)

/-- The word of a text is read as a word of the line it stands on. -/
theorem word_of_indicators {w s' : List Char} {behindGap : Bool} (hw : ∀ x ∈ w, isGap x = false)
    (hs' : ∀ x ∈ s'.head?, isGap x = true)
    (h : Written.holdsIndicator behindGap (w ++ s') = false) (more : List Char) :
    word false (w ++ (s' ++ '\n' :: more)) = w := by
  refine word_eq ?_ hw fun u v hsplit => ?_
  · cases s' with
    | nil => rfl
    | cons x s' =>
        rw [List.cons_append, stops, hs' x rfl, Bool.true_or, Bool.true_or]
  · rw [← List.append_assoc, gapOrEnd_append_line]
    rw [hsplit, List.append_assoc, List.cons_append] at h
    exact Written.gapOrEnd_of_colon h

/-- A text does not end before a word of it that stands behind a gap. -/
theorem endsAt_word {c : Cursor} {x : Char} {w more : List Char} (hmargin : 0 < margin)
    (hcolumn : margin ≤ c.mark.column) (hx : isGap x = false)
    (h : Written.holdsIndicator true (x :: w) = false) (hrest : c.rest = x :: (w ++ '\n' :: more)) :
    endsAt false margin c = false := by
  have hstops : stops false c.rest = false := by
    rw [hrest]
    refine stops_cons hx fun hcolon => ?_
    rw [hcolon] at h
    rw [gapOrEnd_append_line]
    exact Written.gapOrEnd_of_colon (u := []) h
  have hhash : c.at? '#' = false := by
    rw [Cursor.at?_cons hrest]
    exact beq_eq_false_iff_ne.mpr (Written.ne_hash_of_holdsIndicator h x rfl)
  rw [endsAt, hstops, hhash, Cursor.atDocumentMark_of_column (Nat.lt_of_lt_of_le hmargin hcolumn),
    decide_eq_false (Nat.not_lt.mpr hcolumn)]
  rfl

/-- A text is read on word by word up to its end. -/
theorem readMore_tail (start : Mark) (hR : ∀ x ∈ R.head?, beginsToken x = true) (hk : k < margin)
    (fuel : Nat) : ∀ {s : List Char} {c : Cursor}, Tail s → s.length ≤ fuel →
      c.rest = s ++ '\n' :: (spaces k ++ R) → margin ≤ c.mark.column →
      ∃ c', readMore false margin start (fuel + 1) c = .ok ⟨s, true, c'⟩ ∧ c'.rest = R
        ∧ c'.mark.column = k := by
  induction fuel with
  | zero =>
      intro s c hs hlength hrest hcolumn
      rw [List.length_eq_zero_iff.mp (Nat.le_zero.mp hlength)] at hrest ⊢
      exact readMore_line start 0 hrest hR hk
  | succ fuel ih =>
      intro s c hs hlength hrest hcolumn
      by_cases hne : s = []
      · rw [hne] at hrest ⊢
        exact readMore_line start _ hrest hR hk
      -- One turn reads a gap and the word behind it, and what is left is a shorter tail.
      obtain ⟨g, w, s', hsplit, hgne, hg, hwne, hw, hindicators, hs'⟩ := hs.exists_split hne
      rw [hsplit, List.append_assoc, List.append_assoc] at hrest
      obtain ⟨x, w', hwx⟩ := List.exists_cons_of_ne_nil hwne
      have hgap : ∀ y ∈ g, isGap y = true := fun y hy => by rw [hg y hy]; rfl
      have hgbreak : ∀ y ∈ g, isBreak y = false := fun y hy => by rw [hg y hy]; rfl
      have hx : isGap x = false := hw x (hwx ▸ List.mem_cons_self)
      have hspan : c.span isGap = (g, c.past g) :=
        Cursor.span_eq hrest hgap (by rw [hwx]; exact forall_head hx)
      have hnext : (c.past g).rest = w ++ (s' ++ '\n' :: (spaces k ++ R)) := Cursor.past_rest hrest
      have hword := word_of_indicators hw hs'.begins hindicators (spaces k ++ R)
      have hwbreak : ∀ y ∈ w, isBreak y = false := fun y hy => isBreak_eq_false_of_isGap (hw y hy)
      have hinside : margin ≤ (c.past g).mark.column := by
        rw [Cursor.past_column hgbreak]
        omega
      have hgoes : endsAt false margin (c.past g) = false := by
        rw [hwx, List.cons_append] at hindicators
        rw [hwx, List.cons_append, ← List.append_assoc] at hnext
        exact endsAt_word (Nat.zero_lt_of_lt hk) hinside hx hindicators hnext
      obtain ⟨c', hread, hrest', hcolumn'⟩ := ih (s := s') (c := (c.past g).past w) hs'
        (by rw [hsplit, List.length_append, List.length_append] at hlength
            have := List.length_pos_iff.mpr hgne
            omega)
        (Cursor.past_rest hnext) (by rw [Cursor.past_column hwbreak]; omega)
      refine ⟨c', ?_, hrest', hcolumn'⟩
      rw [readMore, clashes_false, if_neg Bool.false_ne_true, hspan]
      dsimp only
      rw [strayTab_of_no_tab fun y hy => by rw [hg y hy]; decide]
      dsimp only
      rw [hgoes, Bool.or_false, List.isEmpty_eq_false_iff.mpr hgne, if_neg Bool.false_ne_true,
        hnext, hword, hread, foldGap_of_no_break hgbreak, hsplit, ← List.append_assoc]
      rfl

/-- A text that may be written without quotes is read as it is, together with the line break behind
it and the indentation of the next line. -/
theorem read_text {text : List Char} {c : Cursor} (h : Written.plainAllowed text = true)
    (hrest : c.rest = text ++ '\n' :: (spaces k ++ R)) (hR : ∀ x ∈ R.head?, beginsToken x = true)
    (hk : k < margin) (hcolumn : margin ≤ c.mark.column) :
    ∃ c', read false margin c = .ok ⟨text, true, c'⟩ ∧ c'.rest = R ∧ c'.mark.column = k := by
  obtain ⟨hclean, hbreaks, -, hlast, -, hindicators⟩ := Written.plainAllowed_iff.mp h
  obtain ⟨w, s, htext, hw, hs⟩ := exists_span_not isGap text
  have hmem : ∀ x ∈ s, x ∈ text := fun x hx => htext ▸ List.mem_append_right w hx
  rw [htext] at hindicators
  have htail : Tail s := by
    refine ⟨hs, fun x hx => ⟨hbreaks x (hmem x hx), ?_⟩, fun hspace => hlast ?_, ?_⟩
    · exact Written.ne_tab_of_isPrintable (Written.isPrintable_of_isClean hclean x (hmem x hx))
    · rw [htext, List.getLast?_append, hspace]
      rfl
    · exact Written.holdsIndicator_of_gap hs (Written.holdsIndicator_append hindicators)
  rw [htext, List.append_assoc] at hrest
  have hinside : margin ≤ (c.past w).mark.column := by
    rw [Cursor.past_column fun x hx => isBreak_eq_false_of_isGap (hw x hx)]
    omega
  have hfuel : s.length ≤ c.rest.length := by
    rw [hrest, List.length_append, List.length_append]
    omega
  obtain ⟨c', hread, hrest', hcolumn'⟩ := readMore_tail c.mark hR hk c.rest.length htail hfuel
    (Cursor.past_rest hrest) hinside
  refine ⟨c', ?_, hrest', hcolumn'⟩
  rw [read, hrest, word_of_indicators hw hs hindicators, ← hrest, hread, htext]
  rfl

/-- A name is read up to the colon behind it. -/
theorem read_name {name more : List Char} {c : Cursor}
    (hname : ∀ x ∈ name, isGap x = false ∧ x ≠ ':') (hmore : gapOrEnd more = true)
    (hrest : c.rest = name ++ ':' :: more) :
    read false margin c = .ok ⟨name, false, c.past name⟩ := by
  have hword : word false (name ++ ':' :: more) = name := by
    refine word_eq ?_ (fun x hx => (hname x hx).1) fun u v hsplit => ?_
    · rw [stops, hmore]
      rfl
    · refine absurd rfl (hname ':' ?_).2
      rw [hsplit]
      exact List.mem_append_right u List.mem_cons_self
  have hcolon : ∀ x ∈ (c.past name).rest.head?, isGap x = false := by
    rw [Cursor.past_rest hrest]
    exact forall_head rfl
  rw [read, hrest, hword, readMore_of_no_gap _ _ hcolon]
  show Except.ok (⟨name ++ [], false, c.past name⟩ : Read) = _
  rw [List.append_nil]

end Plain

end ReleaseGate.Yaml
