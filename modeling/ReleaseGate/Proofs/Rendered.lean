import Mathlib.Data.List.Forall2
import Mathlib.Tactic.SplitIfs
import ReleaseGate.Json.Reader
import ReleaseGate.Json.Writer

/-!
# Written JSON is read back

The reader is a machine without look-ahead, so what it makes of a text depends on the state in which
it comes to the text only. Over the text of a value it passes from the state that expects a value to
the state behind that value, whatever surrounds it, as long as it is not too deep inside. Each way
of writing has one lemma that says so, and they are put together as the texts are.
-/

namespace ReleaseGate.Json

/-! ## Passing over a part of a text -/

/-- Over a text, the reader comes from one state to another, wherever the text stands. -/
def Passes (s : State) (text : List Char) (t : State) : Prop :=
  ∀ here rest, ∃ there, run s here (text ++ rest) = run t there rest

namespace Passes

variable {s t u : State} {c : Char} {text more : List Char}

theorem refl (s : State) : Passes s [] s :=
  fun here _ => ⟨here, rfl⟩

theorem trans (h : Passes s text t) (h' : Passes t more u) : Passes s (text ++ more) u := by
  intro here rest
  obtain ⟨there, hthere⟩ := h here (more ++ rest)
  obtain ⟨beyond, hbeyond⟩ := h' there rest
  refine ⟨beyond, ?_⟩
  rw [List.append_assoc, hthere, hbeyond]

/-- The state behind a character may depend on where the character stands. -/
theorem cons_at (h : ∀ here, ∃ t, step s here c = .ok t ∧ Passes t text u) :
    Passes s (c :: text) u := by
  intro here rest
  obtain ⟨t, hstep, ht⟩ := h here
  obtain ⟨there, hthere⟩ := ht (here + c.utf8Size) rest
  refine ⟨there, ?_⟩
  rw [List.cons_append, run, hstep]
  exact hthere

theorem cons (h : ∀ here, step s here c = .ok t) (ht : Passes t text u) : Passes s (c :: text) u :=
  cons_at fun here => ⟨t, h here, ht⟩

theorem single (h : ∀ here, step s here c = .ok t) : Passes s [c] t :=
  cons h (refl t)

end Passes

/-! ## Strings -/

section Strings

variable {use : TextUse} {chars : List Char} {stack : List Frame}

theorem hexValue_digitChar : ∀ n < 16, hexValue (Nat.digitChar n) = some n := by
  decide

theorem utf8Size_digitChar : ∀ n < 16, (Nat.digitChar n).utf8Size = 1 := by
  decide

theorem hexNumber_digitChar {n : Nat} (h : n < 0x20) :
    hexNumber [Nat.digitChar (n % 16), Nat.digitChar (n / 16), '0', '0'] = some n := by
  have hhigh := hexValue_digitChar (n / 16) (by omega)
  have hlow := hexValue_digitChar (n % 16) (by omega)
  have hzero : hexValue '0' = some 0 := by decide
  simp [hexNumber, hhigh, hlow, hzero]
  omega

/-- A control character is read back from its number. -/
theorem passes_numbered {c : Char} (h : c.toNat < 0x20) :
    Passes (.text use chars .none stack)
      ['\\', 'u', '0', '0', Nat.digitChar (c.toNat / 16), Nat.digitChar (c.toNat % 16)]
      (.text use (c :: chars) .none stack) := by
  have hhigh := utf8Size_digitChar (c.toNat / 16) (by omega)
  have hlow := utf8Size_digitChar (c.toNat % 16) (by omega)
  refine .cons (t := .text use chars .backslash stack) (fun _ => rfl) ?_
  -- the number is kept together with the place where it begins
  refine .cons_at fun here => ⟨.text use chars (.hex (here + 1) [] 0 none) stack, rfl, ?_⟩
  refine .cons (t := .text use chars (.hex (here + 1) ['0'] 1 none) stack) (fun _ => rfl) ?_
  refine .cons (t := .text use chars (.hex (here + 1) ['0', '0'] 2 none) stack) (fun _ => rfl) ?_
  refine .cons (t := .text use chars
    (.hex (here + 1) [Nat.digitChar (c.toNat / 16), '0', '0'] 3 none) stack) (fun _ => ?_) ?_
  · simp [step, textStep, hhigh]
  · refine .single fun _ => ?_
    have hmeaning : hexMeaning (here + 1 + 4) c.toNat none = .ok (.inl c) := by
      have hbelow : ¬ 0xD800 ≤ c.toNat ∧ ¬ 0xDC00 ≤ c.toNat := by omega
      simp [hexMeaning, hbelow]
    simp only [step, textStep, hlow, hexNumber_digitChar h, hmeaning]
    rfl

/-- Every character is read back from the way it is written. -/
theorem passes_escape (c : Char) :
    Passes (.text use chars .none stack) (escape c) (.text use (c :: chars) .none stack) := by
  have hletter : ∀ d, d ≠ 'u' → escaped d = some c →
      Passes (.text use chars .none stack) ['\\', d] (.text use (c :: chars) .none stack) := by
    intro d hu hd
    refine .cons (t := .text use chars .backslash stack) (fun _ => rfl) (.single fun here => ?_)
    show textStep use chars .backslash stack here d = _
    simp [textStep, hu, hd]
  rw [escape]
  split_ifs with hquote hback hb ht hn hf hr hcontrol
  · exact hletter _ (by decide) (by rw [beq_iff_eq.mp hquote]; rfl)
  · exact hletter _ (by decide) (by rw [beq_iff_eq.mp hback]; rfl)
  · exact hletter _ (by decide) (by rw [beq_iff_eq.mp hb]; rfl)
  · exact hletter _ (by decide) (by rw [beq_iff_eq.mp ht]; rfl)
  · exact hletter _ (by decide) (by rw [beq_iff_eq.mp hn]; rfl)
  · exact hletter _ (by decide) (by rw [beq_iff_eq.mp hf]; rfl)
  · exact hletter _ (by decide) (by rw [beq_iff_eq.mp hr]; rfl)
  · exact passes_numbered hcontrol
  · refine .single fun here => ?_
    show textStep use chars .none stack here c = _
    rw [textStep, if_neg hquote, if_neg hback, if_neg hcontrol]

theorem passes_escapes (cs : List Char) :
    Passes (.text use chars .none stack) (cs.flatMap escape)
      (.text use (cs.reverse ++ chars) .none stack) := by
  induction cs generalizing chars with
  | nil => exact .refl _
  | cons c cs ih =>
      rw [List.flatMap_cons, List.reverse_cons, List.append_assoc]
      exact (passes_escape c).trans ih

/-- A string is read back, behind its opening quotation mark. -/
theorem passes_closed (s : String) :
    Passes (.text use [] .none stack) (s.toList.flatMap escape ++ ['"'])
      (closeText use s.toList.reverse stack) := by
  refine (passes_escapes s.toList).trans (.single fun here => ?_)
  rw [List.append_nil]
  rfl

end Strings

/-! ## Values -/

/-- The text is that of a value: the reader passes over it to the state behind the value, if so many
more containers may be open. -/
structure Reads (depth : Nat) (text : List Char) (v : Json) : Prop where
  starts : ∃ c rest, text = c :: rest ∧ isGap c = false ∧ c ≠ ']'
  passes : ∀ stack : List Frame, stack.length + depth ≤ depthLimit →
    Passes (.value stack) text (deliver v stack)

theorem reads_quoted (s : String) : Reads 0 (quoted s) (.string s) where
  starts := ⟨'"', _, rfl, rfl, by decide⟩
  passes stack _ := by
    refine .cons (t := .text .value [] .none stack) (fun _ => rfl) ?_
    have hclosed : Passes (.text .value [] .none stack) _ _ := passes_closed s
    rw [closeText, List.reverse_reverse, String.ofList_toList] at hclosed
    exact hclosed

section Containers

variable {depth : Nat} {stack : List Frame}

/-- In a list, a value may begin where an item may. -/
theorem Reads.passes_item {text : List Char} {v : Json} (h : Reads depth text v)
    (before : List Json) (hdepth : stack.length + (depth + 1) ≤ depthLimit) :
    Passes (.item before stack) text (.afterItem (v :: before) stack) := by
  obtain ⟨c, rest, rfl, hgap, hend⟩ := h.starts
  have hpasses := h.passes (.item before :: stack) (by rw [List.length_cons]; omega)
  intro here more
  obtain ⟨there, hthere⟩ := hpasses here more
  refine ⟨there, Eq.trans ?_ hthere⟩
  simp [run, step, hgap, hend]

theorem passes_items {texts : List (List Char)} {values : List Json}
    (h : List.Forall₂ (Reads depth) texts values) (before : List Json)
    (hdepth : stack.length + (depth + 1) ≤ depthLimit) :
    Passes (.afterItem before stack) (texts.flatMap (',' :: ·))
      (.afterItem (values.reverse ++ before) stack) := by
  induction h generalizing before with
  | nil => exact .refl _
  | @cons text v texts values htext _ ih =>
      rw [List.flatMap_cons, List.reverse_cons, List.append_assoc]
      have hcomma : Passes (.afterItem before stack) (',' :: text)
          (.afterItem (v :: before) stack) :=
        .cons (fun _ => rfl) (htext.passes_item before hdepth)
      exact hcomma.trans (ih (v :: before))

/-- A list is read back from its items. -/
theorem reads_listed {texts : List (List Char)} {values : List Json}
    (h : List.Forall₂ (Reads depth) texts values) :
    Reads (depth + 1) (listed texts) (.array values) where
  starts := ⟨'[', _, rfl, rfl, by decide⟩
  passes stack hdepth := by
    have hopen : ∀ here, step (.value stack) here '[' = .ok (.item [] stack) := by
      intro here
      show (if depthLimit ≤ stack.length then _ else _) = _
      rw [if_neg (by omega)]
    refine .cons hopen ?_
    cases h with
    | nil => exact .single fun _ => rfl
    | @cons text v texts values htext htexts =>
        rw [row, List.append_assoc]
        refine (htext.passes_item [] hdepth).trans ((passes_items htexts [v] hdepth).trans ?_)
        refine .single fun _ => ?_
        show Except.ok (deliver (.array (values.reverse ++ [v]).reverse) stack) = _
        rw [List.reverse_append, List.reverse_reverse]
        rfl

/-- Members of an object have the same keys, and the text of each value is read back. -/
def ReadsMember (depth : Nat) (m : String × List Char) (m' : String × Json) : Prop :=
  m.1 = m'.1 ∧ Reads depth m.2 m'.2

theorem ReadsMember.passes_key {m : String × List Char} {m' : String × Json}
    (h : ReadsMember depth m m') (before : List (String × Json))
    (hdepth : stack.length + (depth + 1) ≤ depthLimit) :
    Passes (.key before stack) (member m) (.afterMember (m' :: before) stack) := by
  obtain ⟨key, text⟩ := m
  obtain ⟨key', v⟩ := m'
  obtain ⟨rfl, htext⟩ := h
  have hkey : Passes (.text (.key before) [] .none stack) _ _ := passes_closed key
  rw [closeText, List.reverse_reverse, String.ofList_toList] at hkey
  have hopen : Passes (.key before stack) (quoted key) (.colon before key stack) :=
    .cons (fun _ => rfl) hkey
  refine hopen.trans (.cons (t := .value (.member before key :: stack)) (fun _ => rfl) ?_)
  exact htext.passes (.member before key :: stack) (by rw [List.length_cons]; omega)

theorem passes_members {ms : List (String × List Char)} {members : List (String × Json)}
    (h : List.Forall₂ (ReadsMember depth) ms members) (before : List (String × Json))
    (hdepth : stack.length + (depth + 1) ≤ depthLimit) :
    Passes (.afterMember before stack) ((ms.map member).flatMap (',' :: ·))
      (.afterMember (members.reverse ++ before) stack) := by
  induction h generalizing before with
  | nil => exact .refl _
  | @cons m m' ms members hm _ ih =>
      rw [List.map_cons, List.flatMap_cons, List.reverse_cons, List.append_assoc]
      have hcomma : Passes (.afterMember before stack) (',' :: member m)
          (.afterMember (m' :: before) stack) :=
        .cons (fun _ => rfl) (hm.passes_key before hdepth)
      exact hcomma.trans (ih (m' :: before))

/-- An object is read back from its members. -/
theorem reads_braced {ms : List (String × List Char)} {members : List (String × Json)}
    (h : List.Forall₂ (ReadsMember depth) ms members) :
    Reads (depth + 1) (braced ms) (ofMembers members) where
  starts := ⟨'\x7b', _, rfl, rfl, by decide⟩
  passes stack hdepth := by
    have hopen : ∀ here, step (.value stack) here '\x7b' = .ok (.key [] stack) := by
      intro here
      show (if depthLimit ≤ stack.length then _ else _) = _
      rw [if_neg (by omega)]
    refine .cons hopen ?_
    cases h with
    | nil => exact .single fun _ => rfl
    | @cons m m' ms members hm hms =>
        rw [List.map_cons, row, List.append_assoc]
        refine (hm.passes_key [] hdepth).trans ((passes_members hms [m'] hdepth).trans ?_)
        refine .single fun _ => ?_
        show Except.ok (deliver (ofMembers (members.reverse ++ [m']).reverse) stack) = _
        rw [List.reverse_append, List.reverse_reverse]
        rfl

end Containers

/-- A text is read as the value that it is written for. -/
theorem read_of_reads {depth : Nat} {text : List Char} {v : Json} (h : Reads depth text v)
    (hdepth : depth ≤ depthLimit) : Json.read (String.ofList text) = .ok v := by
  obtain ⟨there, hthere⟩ := h.passes [] (by rwa [List.length_nil, Nat.zero_add]) 0 []
  rw [List.append_nil] at hthere
  rw [Json.read, String.toList_ofList, hthere]
  rfl

end ReleaseGate.Json
