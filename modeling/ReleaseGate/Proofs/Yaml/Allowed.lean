import ReleaseGate.Proofs.Yaml.Values

/-!
# Allowed characters — every written text can be read at all

A text with a character that may not stand in it is not read. Whatever is written is printable, a
line break, or ASCII in the place of a character that is neither.
-/

namespace ReleaseGate.Yaml

open Written (spaces)

theorem isAllowed_of_isPrintable {x : Char} (h : isPrintable x = true) : isAllowed x = true := by
  simp only [isPrintable, Bool.or_eq_true, Bool.and_eq_true, beq_iff_eq, bne_iff_ne,
    decide_eq_true_iff] at h
  simp only [isAllowed, Bool.or_eq_true, Bool.and_eq_true, beq_iff_eq, decide_eq_true_iff]
  omega

namespace Written

variable {text : List Char} {indent : Nat}

theorem isAllowed_single (h : ∀ x ∈ text, isPrintable x = true) :
    ∀ behindBreak : Bool, ∀ x ∈ single indent behindBreak text, isAllowed x = true := by
  induction text with
  | nil =>
      intro behindBreak
      cases behindBreak with
      | false => exact List.forall_mem_nil _
      | true => exact forall_mem_spaces rfl
  | cons x text ih =>
      intro behindBreak
      obtain ⟨hx, hrest⟩ := List.forall_mem_cons.mp h
      have hallowed := isAllowed_of_isPrintable hx
      rw [single]
      split
      · exact List.forall_mem_cons.mpr ⟨hallowed, ih hrest true⟩
      · refine List.forall_mem_append.mpr ⟨List.forall_mem_append.mpr ⟨?_, ?_⟩, ih hrest false⟩
        · cases behindBreak with
          | false => exact List.forall_mem_nil _
          | true => exact forall_mem_spaces rfl
        · split
          · exact List.forall_mem_cons.mpr ⟨rfl, List.forall_mem_singleton.mpr rfl⟩
          · exact List.forall_mem_singleton.mpr hallowed

theorem isAllowed_codeEscape (x : Char) : ∀ y ∈ codeEscape x, isAllowed y = true := by
  have hdigits := Quoted.forall_mem_hexDigits (P := fun y => isAllowed y = true) (by decide)
  rw [codeEscape]
  split
  · exact List.forall_mem_cons.mpr ⟨rfl, hdigits 2 _⟩
  · split
    · exact List.forall_mem_cons.mpr ⟨rfl, hdigits 4 _⟩
    · exact List.forall_mem_cons.mpr ⟨rfl, hdigits 8 _⟩

theorem isAllowed_doubleChar (x : Char) : ∀ y ∈ doubleChar x, isAllowed y = true := by
  have hletters : ∀ e ∈ shortEscapes, isAllowed e.2 = true := by decide
  cases hbare : Quoted.isBare x with
  | true =>
      rw [Quoted.doubleChar_of_bare hbare]
      rw [Quoted.isBare, Bool.and_eq_true, Bool.and_eq_true, Bool.and_eq_true] at hbare
      exact List.forall_mem_singleton.mpr (isAllowed_of_isPrintable hbare.1.1.1)
  | false =>
      rw [Quoted.doubleChar_of_not_bare hbare]
      cases hshort : shortEscapes.lookup x with
      | none => exact List.forall_mem_cons.mpr ⟨rfl, isAllowed_codeEscape x⟩
      | some letter =>
          have hletter := hletters (x, letter) (Quoted.mem_of_lookup hshort)
          exact List.forall_mem_cons.mpr ⟨rfl, List.forall_mem_singleton.mpr hletter⟩

theorem isAllowed_lines (h : ∀ x ∈ text, isPrintable x = true) :
    ∀ behindBreak : Bool, ∀ x ∈ lines indent behindBreak text, isAllowed x = true := by
  induction text with
  | nil => exact fun _ => List.forall_mem_nil _
  | cons x text ih =>
      intro behindBreak
      obtain ⟨hx, hrest⟩ := List.forall_mem_cons.mp h
      have hallowed := isAllowed_of_isPrintable hx
      rw [lines]
      split
      · exact List.forall_mem_cons.mpr ⟨hallowed, ih hrest true⟩
      · refine List.forall_mem_append.mpr ⟨?_, List.forall_mem_cons.mpr ⟨hallowed, ih hrest false⟩⟩
        cases behindBreak with
        | false => exact List.forall_mem_nil _
        | true => exact forall_mem_spaces rfl

theorem isAllowed_hints (text : List Char) :
    ∀ x ∈ indentHint text ++ chompHint text, isAllowed x = true := by
  refine List.forall_mem_append.mpr ⟨?_, ?_⟩
  · obtain ⟨hinted, hhint, -⟩ := Block.indentHint_eq text
    rw [hhint]
    cases hinted with
    | false => exact List.forall_mem_nil _
    | true => exact List.forall_mem_singleton.mpr rfl
  · rw [chompHint]
    split
    · exact List.forall_mem_singleton.mpr rfl
    · split
      · exact List.forall_mem_singleton.mpr rfl
      · split
        · exact List.forall_mem_singleton.mpr rfl
        · split
          · exact List.forall_mem_singleton.mpr rfl
          · exact List.forall_mem_nil _

/-- A value is written with characters that may stand in a text. -/
theorem isAllowed_value (indent : Nat) (text : String) :
    ∀ x ∈ value indent text, isAllowed x = true := by
  rw [value_eq]
  refine List.forall_mem_cons.mpr ⟨rfl, ?_⟩
  generalize text.toList = text
  rcases styleOf_cases text with
    ⟨hstyle, hplain, hne⟩ | ⟨hstyle, hsingle, -⟩ | hstyle | ⟨hstyle, hlines, hne⟩
  · have hprintable := isPrintable_of_isClean (plainAllowed_iff.mp hplain).1
    rw [body_plain hstyle hplain hne]
    exact List.forall_mem_append.mpr ⟨fun x hx => isAllowed_of_isPrintable (hprintable x hx),
      List.forall_mem_singleton.mpr rfl⟩
  · rw [singleAllowed, Bool.and_eq_true] at hsingle
    rw [body_single hstyle]
    exact List.forall_mem_cons.mpr ⟨rfl, List.forall_mem_append.mpr
      ⟨isAllowed_single (isPrintable_of_isClean hsingle.1) false, List.all_eq_true.mp rfl⟩⟩
  · rw [body_double hstyle]
    refine List.forall_mem_cons.mpr ⟨rfl, List.forall_mem_append.mpr
      ⟨fun x hx => ?_, List.all_eq_true.mp rfl⟩⟩
    obtain ⟨y, -, hy⟩ := List.mem_flatMap.mp hx
    exact isAllowed_doubleChar y x hy
  · rw [linesAllowed, Bool.and_eq_true] at hlines
    have hprintable := forall_mem_closed (isPrintable_of_isClean hlines.1)
    rw [body_lines hstyle hne]
    exact List.forall_mem_cons.mpr ⟨rfl, List.forall_mem_append.mpr
      ⟨isAllowed_hints text, List.forall_mem_cons.mpr ⟨rfl, isAllowed_lines hprintable true⟩⟩⟩

end Written

/-- A text of such characters is read to its end. -/
theorem Tokens.firstForbidden_eq_none {text : List Char} (h : ∀ x ∈ text, isAllowed x = true) :
    ∀ before room seen offset : Nat, firstForbidden before room seen offset text = none := by
  induction text with
  | nil => exact fun _ _ _ _ => rfl
  | cons x text ih =>
      intro before room seen offset
      obtain ⟨hx, hrest⟩ := List.forall_mem_cons.mp h
      rw [firstForbidden, hx]
      exact ih hrest _ _ _ _

namespace Layout

variable {text : List Char}

/-- The start of a text is a place outside of all blocks. -/
theorem ready_start (h : ∀ x ∈ text.head?, beginsToken x = true) :
    (Layout.start text).Ready ⟨[], 0, [], true, 0, text⟩ := by
  have hstands : (Layout.start text).Stands ⟨[], 0, [], true, 0, text⟩ :=
    ⟨rfl, rfl, rfl, rfl, rfl, rfl, rfl, rfl⟩
  exact hstands.ready_here h

/-- A text that is read to its end has the tokens that were read, and the ends of all blocks. -/
theorem Reads.ofText {q : Place} (h : Reads ⟨[], 0, [], true, 0, text⟩ q) (hrest : q.rest = [])
    (hstart : ∀ x ∈ text.head?, beginsToken x = true) (htext : ∀ x ∈ text, isAllowed x = true) :
    ∃ tokens m, Tokens.ofText text = Tokens.behind tokens (.finished m)
      ∧ tokens.map Prod.fst = (q.closeTo 0).kinds := by
  obtain ⟨n, hn, hsteps⟩ := h
  obtain ⟨l, hl, hready⟩ := hsteps _ (ready_start hstart)
  obtain ⟨tokens, m, hread, hkinds⟩ := hready.readFrom_end hrest (text.length - n)
  refine ⟨tokens, m, ?_, hkinds⟩
  -- No step goes without a character, so there are steps left for the end of the text.
  have hfuel : text.length + 1 = n + (text.length - n + 1) := by
    have hcount : n ≤ text.length := Nat.le_trans (Nat.le_add_right n _) hn
    omega
  rw [Tokens.ofText, Tokens.firstForbidden_eq_none htext]
  show Tokens.readFrom none (text.length + 1) (Layout.start text) = _
  rw [hfuel, readFrom_steps hl, hread]

end Layout

end ReleaseGate.Yaml
