import ReleaseGate.Yaml.Form

/-!
# Fits — the values that forms make of events

A form takes the events of one node and leaves those behind it. That is said of each way to build a
form: what a mapping takes comes from what its members take one after the other, and what a sequence
takes from what its entries take.
-/

namespace ReleaseGate.Yaml.Form

/-- The form makes the value of the events and leaves what follows them. -/
def Takes {α : Type} (form : Form α) (events : List (Event Nat)) (a : α) : Prop :=
  ∀ (d : Document) (path : Path) (p : Progress) (more : List (Event Nat)),
    p.rest.map Prod.fst = events ++ more →
      ∃ q, form d path p = .ok (a, q) ∧ q.rest.map Prod.fst = more

theorem next_of_cons {d : Document} {p : Progress} {e : Event Nat} {more : List (Event Nat)}
    (h : p.rest.map Prod.fst = e :: more) :
    ∃ m after, next d p = .ok (e, m, after) ∧ after.rest.map Prod.fst = more := by
  obtain ⟨⟨e', m⟩, rest, hrest, rfl, hmore⟩ := List.map_eq_cons_iff.mp h
  refine ⟨m, { p with rest := rest }, ?_, hmore⟩
  rw [next, hrest]

section

variable {α σ : Type} {events : List (Event Nat)}

/-- A scalar is taken as its text. -/
theorem takes_text (expected : String) (tag : Option TagText) (text : List Char) (plain : Bool) :
    Takes (Form.text expected) [.scalar tag text plain] (String.ofList text) := by
  intro d path p more hrest
  obtain ⟨m, after, hnext, hafter⟩ := next_of_cons (d := d) hrest
  refine ⟨after, ?_, hafter⟩
  rw [Form.text, taking, hnext]
  rfl

/-- The first value for a member is taken as the value is. -/
theorem takes_once {value : Form α} {a : α} (h : Takes value events a) (name : String)
    (keep : α → σ) : Takes (once name none value keep) events (keep a) := by
  intro d path p more hrest
  obtain ⟨q, hvalue, hq⟩ := h d path p more hrest
  refine ⟨q, ?_, hq⟩
  show (value d path p).bind _ = _
  rw [hvalue]
  rfl

/-- A word that is written out is taken as what it stands for. -/
theorem takes_word {known : List (String × α)} {text : List Char} {a : α}
    (h : known.lookup (String.ofList text) = some a) (plain : Bool) :
    Takes (word known) [.scalar none text plain] a := by
  intro d path p more hrest
  obtain ⟨m, after, hnext, hafter⟩ := next_of_cons (d := d) hrest
  refine ⟨after, ?_, hafter⟩
  have hhere : wordHere known d path p = .ok (a, after) := by
    rw [wordHere, hnext]
    show ((wordAmong known (String.ofList text)).bind _).mapError _ = _
    rw [wordAmong, h]
    rfl
  rw [word, hnext]
  exact hhere

/-! ## Mappings -/

/-- The members take the events one after the other, from what has been read to what is read then. -/
inductive Fills (member : MemberOf σ) : List (Event Nat) → σ → σ → Prop where
  | nil (s : σ) : Fills member [] s s
  | cons {name : String} {plain : Bool} {events more : List (Event Nat)} {s s' s'' : σ} :
      Takes (member name s) events s' → Fills member more s' s'' →
      Fills member (.scalar none name.toList plain :: (events ++ more)) s s''

/-- Members are read up to the end of their mapping. -/
theorem membersFrom_fills {member : MemberOf σ} {s s' : σ} (h : Fills member events s s')
    (d : Document) (path : Path) :
    ∀ (fuel : Nat) {p : Progress} {more : List (Event Nat)}, events.length < fuel →
      p.rest.map Prod.fst = events ++ .mappingEnd :: more →
      ∃ q, membersFrom member d path fuel s p = .ok (s', q) ∧ q.rest.map Prod.fst = more := by
  induction h with
  | nil s =>
      intro fuel p more hfuel hrest
      obtain ⟨fuel, rfl⟩ := Nat.exists_eq_add_one_of_ne_zero (Nat.ne_of_gt hfuel)
      obtain ⟨m, after, hnext, hafter⟩ := next_of_cons (d := d) hrest
      refine ⟨after, ?_, hafter⟩
      rw [membersFrom, hnext]
      rfl
  | @cons name plain events behind s s' s'' hmember _ ih =>
      intro fuel p more hfuel hrest
      obtain ⟨fuel, rfl⟩ := Nat.exists_eq_add_one_of_ne_zero (Nat.ne_of_gt (Nat.zero_lt_of_lt hfuel))
      -- The name is looked at for the path of its value, and then read.
      obtain ⟨m, after, hnext, -⟩ := next_of_cons (d := d) hrest
      obtain ⟨q, hname, hq⟩ := takes_text "field identifier" none name.toList plain d path p
        (events ++ (behind ++ .mappingEnd :: more))
        (by rw [hrest, List.cons_append, List.append_assoc]; rfl)
      obtain ⟨q', hvalue, hq'⟩ := hmember d (path ++ [stepOf (.scalar none name.toList plain)]) q _ hq
      rw [List.length_cons, List.length_append] at hfuel
      obtain ⟨q'', hbehind, hq''⟩ := ih fuel (by omega) hq'
      refine ⟨q'', ?_, hq''⟩
      rw [membersFrom, hnext]
      show (Form.text "field identifier" d path p).bind _ = _
      rw [hname, String.ofList_toList]
      show (member name s d (path ++ [stepOf (.scalar none name.toList plain)]) q).bind _ = _
      rw [hvalue]
      exact hbehind

/-- A mapping is taken as what its members give in the end. -/
theorem takes_mapping {member : MemberOf σ} {empty s : σ} {finish : σ → Except Fault α} {a : α}
    (h : Fills member events empty s) (hfinish : finish s = .ok a) (expected : String) :
    Takes (mapping expected empty member finish) (.mapping none :: (events ++ [.mappingEnd])) a := by
  intro d path p more hrest
  obtain ⟨m, after, hnext, hafter⟩ := next_of_cons (d := d) hrest
  have hmore : after.rest.map Prod.fst = events ++ .mappingEnd :: more := by
    rw [hafter]
    exact List.append_assoc events [.mappingEnd] more
  have hfuel : events.length < after.rest.length + 1 := by
    rw [← List.length_map (f := Prod.fst), hmore, List.length_append]
    omega
  obtain ⟨q, hmembers, hq⟩ := membersFrom_fills h d path _ hfuel hmore
  refine ⟨q, ?_, hq⟩
  rw [mapping, taking, hnext]
  show ((membersFrom member d path (after.rest.length + 1) empty after).bind _).mapError _ = _
  rw [hmembers]
  show ((finish s).bind _).mapError _ = _
  rw [hfinish]
  rfl

/-! ## Sequences -/

theorem length_le_flatMap {β γ : Type} {f : β → List γ} {l : List β}
    (h : ∀ b ∈ l, ∃ c more, f b = c :: more) : l.length ≤ (l.flatMap f).length := by
  induction l with
  | nil => exact Nat.le_refl 0
  | cons b l ih =>
      obtain ⟨⟨c, more, hb⟩, hl⟩ := List.forall_mem_cons.mp h
      have hrest := ih hl
      rw [List.flatMap_cons, hb, List.length_append, List.length_cons, List.length_cons]
      omega

/-- Entries are read up to the end of their sequence. -/
theorem entriesFrom_takes {β : Type} {entry : Form α} {eventsOf : β → List (Event Nat)}
    {valueOf : β → α} {entries : List β} (h : ∀ b ∈ entries, Takes entry (eventsOf b) (valueOf b))
    (hbegin : ∀ b ∈ entries, ∃ e more, eventsOf b = e :: more ∧ e ≠ .sequenceEnd)
    (d : Document) (path : Path) :
    ∀ (fuel index : Nat) {p : Progress} {more : List (Event Nat)}, entries.length < fuel →
      p.rest.map Prod.fst = entries.flatMap eventsOf ++ .sequenceEnd :: more →
      ∃ q, entriesFrom entry d path fuel index p = .ok (entries.map valueOf, q)
        ∧ q.rest.map Prod.fst = more := by
  induction entries with
  | nil =>
      intro fuel index p more hfuel hrest
      obtain ⟨fuel, rfl⟩ := Nat.exists_eq_add_one_of_ne_zero (Nat.ne_of_gt hfuel)
      obtain ⟨m, after, hnext, hafter⟩ := next_of_cons (d := d) hrest
      refine ⟨after, ?_, hafter⟩
      rw [entriesFrom, hnext]
      rfl
  | cons b entries ih =>
      intro fuel index p more hfuel hrest
      obtain ⟨fuel, rfl⟩ := Nat.exists_eq_add_one_of_ne_zero (Nat.ne_of_gt (Nat.zero_lt_of_lt hfuel))
      obtain ⟨hb, hentries⟩ := List.forall_mem_cons.mp h
      obtain ⟨⟨e, inner, hinner, hfirst⟩, hbegins⟩ := List.forall_mem_cons.mp hbegin
      rw [List.flatMap_cons, List.append_assoc] at hrest
      obtain ⟨q, hvalue, hq⟩ := hb d (path ++ [.item index]) p _ hrest
      obtain ⟨q', hbehind, hq'⟩ := ih hentries hbegins fuel (index + 1)
        (Nat.lt_of_succ_lt_succ hfuel) hq
      rw [hinner, List.cons_append] at hrest
      obtain ⟨m, after, hnext, -⟩ := next_of_cons (d := d) hrest
      refine ⟨q', ?_, hq'⟩
      rw [entriesFrom, hnext]
      cases e with
      | sequenceEnd => exact absurd rfl hfirst
      | _ =>
          show (entry d (path ++ [.item index]) p).bind _ = _
          rw [hvalue]
          show (entriesFrom entry d path fuel (index + 1) q).bind _ = _
          rw [hbehind]
          rfl

/-- A sequence is taken as the values of its entries. -/
theorem takes_sequence {β : Type} {entry : Form α} {eventsOf : β → List (Event Nat)}
    {valueOf : β → α} {entries : List β} (h : ∀ b ∈ entries, Takes entry (eventsOf b) (valueOf b))
    (hbegin : ∀ b ∈ entries, ∃ e more, eventsOf b = e :: more ∧ e ≠ .sequenceEnd)
    (expected : String) : Takes (sequence expected entry)
      (.sequence none :: (entries.flatMap eventsOf ++ [.sequenceEnd])) (entries.map valueOf) := by
  intro d path p more hrest
  obtain ⟨m, after, hnext, hafter⟩ := next_of_cons (d := d) hrest
  have hmore : after.rest.map Prod.fst = entries.flatMap eventsOf ++ .sequenceEnd :: more := by
    rw [hafter]
    exact List.append_assoc _ [.sequenceEnd] more
  have hfuel : entries.length < after.rest.length + 1 := by
    have hcount : entries.length ≤ (entries.flatMap eventsOf).length :=
      length_le_flatMap fun b hb => by
        obtain ⟨e, inner, hinner, -⟩ := hbegin b hb
        exact ⟨e, inner, hinner⟩
    rw [← List.length_map (f := Prod.fst), hmore, List.length_append]
    omega
  obtain ⟨q, hentries, hq⟩ := entriesFrom_takes h hbegin d path _ 0 hfuel hmore
  refine ⟨q, ?_, hq⟩
  rw [sequence, taking, hnext]
  show (entriesFrom entry d path (after.rest.length + 1) 0 after).mapError _ = _
  rw [hentries]
  rfl

/-! ## Documents -/

/-- A form that takes all events of the only document of a text makes its value of the text. -/
theorem Takes.readText {form : Form α} {a : α} {text : List Char} {marked : List (Event Nat × Mark)}
    (h : Takes form (marked.map Prod.fst) a)
    (htext : Document.ofText text = ⟨marked, [], none, false⟩) : readText form text = .ok a := by
  obtain ⟨q, hform, -⟩ := h ⟨marked, [], none, false⟩ [] ⟨marked, 0⟩ [] (List.append_nil _).symm
  rw [Form.readText, htext]
  show (form ⟨marked, [], none, false⟩ [] ⟨marked, 0⟩).bind _ = _
  rw [hform]
  rfl

end

end ReleaseGate.Yaml.Form
