import ReleaseGate.Proofs.Closure

/-!
# Paths through a program

A path goes from a way at a position to a way that accepts, taking the text on as it goes. Whether
there is one depends on the address alone and not on what the way has noted. What is reached at a
position without taking a character decides it: some path begins with one of the given ways just
when one of the reached ways accepts or takes the next character and has a path behind it.
-/

namespace ReleaseGate.Pattern

/-- From a way at a position with so much text ahead, a path leads to an accepting way. -/
inductive Path (p : Program) : Option Char → Nat → List Char → Way → Way → Prop where
  | accept {before : Option Char} {position : Nat} {text : List Char} {w : Way} :
      p[w.address]? = some .accept → Path p before position text w w
  | take {before : Option Char} {position : Nat} {c : Char} {text : List Char} {w r : Way}
      {set : Unicode.CharSet} {next : Nat} :
      p[w.address]? = some (.take set next) → set.contains c = true →
      Path p (some c) (position + 1) text { w with address := next } r →
      Path p before position (c :: text) w r
  | go {before : Option Char} {position : Nat} {text : List Char} {w v r : Way}
      {i : Instruction} :
      p[w.address]? = some i → v ∈ w.branches ⟨before, text.head?⟩ position i →
      Path p before position text v r → Path p before position text w r

/-- From an address with so much text ahead, some path leads to an accepting instruction. -/
inductive Leads (p : Program) : Option Char → List Char → Nat → Prop where
  | accept {before : Option Char} {text : List Char} {a : Nat} :
      p[a]? = some .accept → Leads p before text a
  | take {before : Option Char} {c : Char} {text : List Char} {a next : Nat}
      {set : Unicode.CharSet} :
      p[a]? = some (.take set next) → set.contains c = true → Leads p (some c) text next →
      Leads p before (c :: text) a
  | go {before : Option Char} {text : List Char} {a b : Nat} {i : Instruction} :
      p[a]? = some i → b ∈ i.exits ⟨before, text.head?⟩ → Leads p before text b →
      Leads p before text a

/-- A waiting instruction accepts, or takes the next character and some path leads on. -/
inductive Proceeds (p : Program) : List Char → Instruction → Prop where
  | accept {text : List Char} : Proceeds p text .accept
  | take {c : Char} {text : List Char} {set : Unicode.CharSet} {next : Nat} :
      set.contains c = true → Leads p (some c) text next → Proceeds p (c :: text) (.take set next)

variable {p : Program}

/-- Whether there is a path depends on the address alone. -/
theorem leads_iff_exists_path {before : Option Char} {text : List Char} {w : Way}
    (position : Nat) :
    Leads p before text w.address ↔ ∃ r, Path p before position text w r := by
  constructor
  · intro h
    generalize ha : w.address = a at h
    induction h generalizing w position with
    | accept hi => exact ⟨w, .accept (ha ▸ hi)⟩
    | @take before c text a next set hi hc h ih =>
        obtain ⟨r, hr⟩ := @ih { w with address := next } (position + 1) rfl
        exact ⟨r, .take (ha ▸ hi) hc hr⟩
    | @go before text a b i hi hb h ih =>
        -- an address that is gone on to is that of a way that is gone on with
        rw [← w.map_address_branches _ position] at hb
        obtain ⟨v, hv, hvb⟩ := List.mem_map.mp hb
        obtain ⟨r, hr⟩ := ih position hvb
        exact ⟨r, .go (ha ▸ hi) hv hr⟩
  · rintro ⟨r, h⟩
    induction h with
    | accept hi => exact .accept hi
    | take hi hc h ih => exact .take hi hc ih
    | @go before position text w v r i hi hv h ih =>
        refine .go hi ?_ ih
        rw [← w.map_address_branches _ position]
        exact List.mem_map_of_mem hv

theorem Leads.exists_instruction {before : Option Char} {text : List Char} {a : Nat}
    (h : Leads p before text a) : ∃ i, p[a]? = some i := by
  cases h with
  | accept hi => exact ⟨_, hi⟩
  | take hi => exact ⟨_, hi⟩
  | go hi => exact ⟨_, hi⟩

/-- A path leads from a waiting instruction just when it proceeds. -/
theorem leads_iff_proceeds (before : Option Char) {text : List Char} {a : Nat} {i : Instruction}
    (hi : p[a]? = some i) (hwaits : i.waits = true) :
    Leads p before text a ↔ Proceeds p text i := by
  constructor
  · intro h
    cases h with
    | accept hi' => exact Option.some.inj (hi'.symm.trans hi) ▸ .accept
    | take hi' hc h => exact Option.some.inj (hi'.symm.trans hi) ▸ .take hc h
    | @go _ _ _ b i' hi' hb h =>
        rw [Option.some.inj (hi'.symm.trans hi)] at hb
        cases i with
        | take set next => cases hb
        | accept => cases hb
        | _ => cases hwaits
  · intro h
    cases h with
    | accept => exact .accept hi
    | take hc h => exact .take hi hc h

/-- In a closed set, a path from one of its addresses passes a waiting instruction there. -/
theorem Leads.exists_waiting {before : Option Char} {text : List Char} {s : Set Nat}
    (hs : Closed p ⟨before, text.head?⟩ s) {a : Nat} (ha : a ∈ s) (h : Leads p before text a) :
    ∃ b ∈ s, ∃ i, p[b]? = some i ∧ i.waits = true ∧ Proceeds p text i := by
  induction h with
  | accept hi => exact ⟨_, ha, _, hi, rfl, .accept⟩
  | take hi hc h => exact ⟨_, ha, _, hi, rfl, .take hc h⟩
  | @go before text a b i hi hb h ih =>
      have hgoes : i.waits = false := by
        cases i with
        | take set next => cases hb
        | accept => cases hb
        | _ => rfl
      rcases hs a ha i hi hgoes b hb with hmem | hnone
      · exact ih hs hmem
      · obtain ⟨j, hj⟩ := h.exists_instruction
        rw [hnone] at hj
        cases hj

/-! ## Paths and what is reached -/

/-- A way from which another is reached without taking a character. -/
inductive Steps (p : Program) (n : Neighbours) (position : Nat) : Way → Way → Prop where
  | refl {w : Way} : Steps p n position w w
  | go {w v u : Way} {i : Instruction} :
      p[w.address]? = some i → v ∈ w.branches n position i → Steps p n position v u →
      Steps p n position w u

/-- What was found was reached from one of the ways. -/
theorem Follows.exists_steps {n : Neighbours} {position : Nat} {seen seen' : Set Nat}
    {ways : List Way} {found : List (Way × Instruction)}
    (h : Follows p n position seen ways found seen') {f : Way × Instruction} (hf : f ∈ found) :
    ∃ w ∈ ways, Steps p n position w f.1 := by
  induction h with
  | nil => cases hf
  | again hseen hrest ih =>
      obtain ⟨v, hv, hsteps⟩ := ih hf
      exact ⟨v, List.mem_cons_of_mem _ hv, hsteps⟩
  | nowhere hnone hrest ih =>
      obtain ⟨v, hv, hsteps⟩ := ih hf
      exact ⟨v, List.mem_cons_of_mem _ hv, hsteps⟩
  | waits hnew hi hwaits hrest ih =>
      rcases List.mem_cons.mp hf with rfl | hf
      · exact ⟨_, List.mem_cons_self .., .refl⟩
      · obtain ⟨v, hv, hsteps⟩ := ih hf
        exact ⟨v, List.mem_cons_of_mem _ hv, hsteps⟩
  | goes hnew hi hgoes hrest ih =>
      obtain ⟨v, hv, hsteps⟩ := ih hf
      rcases List.mem_append.mp hv with hv | hv
      · exact ⟨_, List.mem_cons_self .., .go hi hv hsteps⟩
      · exact ⟨v, List.mem_cons_of_mem _ hv, hsteps⟩

/-- A path from what is reached is a path from where it is reached. -/
theorem Steps.path {before : Option Char} {position : Nat} {text : List Char} {w v r : Way}
    (h : Steps p ⟨before, text.head?⟩ position w v) (hr : Path p before position text v r) :
    Path p before position text w r := by
  induction h with
  | refl => exact hr
  | go hi hv _ ih => exact .go hi hv (ih hr)

variable {before : Option Char} {position : Nat} {text : List Char} {ways : List Way}

theorem waits_of_mem_reach {n : Neighbours} {f : Way × Instruction}
    (hf : f ∈ reach p n position ways) : p[f.1.address]? = some f.2 ∧ f.2.waits = true := by
  obtain ⟨seen', h⟩ := follows_reach p n position ways
  obtain ⟨hi, hwaits, -⟩ := h.waits_of_mem hf
  exact ⟨hi, hwaits⟩

/-- A path from what is reached is a path from one of the ways. -/
theorem exists_path_of_mem_reach {f : Way × Instruction} {r : Way}
    (hf : f ∈ reach p ⟨before, text.head?⟩ position ways)
    (hr : Path p before position text f.1 r) : ∃ w ∈ ways, Path p before position text w r := by
  obtain ⟨seen', h⟩ := follows_reach p ⟨before, text.head?⟩ position ways
  obtain ⟨w, hw, hsteps⟩ := h.exists_steps hf
  exact ⟨w, hw, hsteps.path hr⟩

/-- Some path leads from the ways just when something that is reached proceeds. -/
theorem exists_leads_iff : (∃ w ∈ ways, Leads p before text w.address)
    ↔ ∃ f ∈ reach p ⟨before, text.head?⟩ position ways, Proceeds p text f.2 := by
  constructor
  · rintro ⟨w, hw, h⟩
    obtain ⟨seen', hfollows⟩ := follows_reach p ⟨before, text.head?⟩ position ways
    rcases hfollows.entered_of_mem hw with hmem | hnone
    · obtain ⟨b, hb, i, hi, hwaits, hproceeds⟩ := h.exists_waiting hfollows.closed_of_empty hmem
      rcases hfollows.closed hb (Set.notMem_empty b) hi with ⟨-, v, hv, -⟩ | ⟨hgoes, -⟩
      · exact ⟨(v, i), hv, hproceeds⟩
      · rw [hwaits] at hgoes
        cases hgoes
    · obtain ⟨i, hi⟩ := h.exists_instruction
      rw [hnone] at hi
      cases hi
  · rintro ⟨f, hf, hproceeds⟩
    obtain ⟨hi, hwaits⟩ := waits_of_mem_reach hf
    obtain ⟨r, hr⟩ := (leads_iff_exists_path position).mp
      ((leads_iff_proceeds before hi hwaits).mpr hproceeds)
    obtain ⟨w, hw, hr⟩ := exists_path_of_mem_reach hf hr
    exact ⟨w, hw, (leads_iff_exists_path position).mpr ⟨r, hr⟩⟩

end ReleaseGate.Pattern
