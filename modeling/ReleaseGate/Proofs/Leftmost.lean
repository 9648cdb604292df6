import ReleaseGate.Pattern
import ReleaseGate.Proofs.Paths

/-!
# A search finds the match that begins first

Ways that are followed side by side do not disturb each other: what a list of ways comes to is what
the first of them comes to that matches at all. A way is lost only to one that is ranked above it
and at the same instruction, and of these two either both match or none does. Since ways that begin
later rank below those that began before, a search comes to the match that begins first.
-/

namespace ReleaseGate.Pattern

/-- The preferred of the matches that ways come to, when none begins later. -/
def race (p : Program) (before : Option Char) (position : Nat) (ways : List Way) :
    List Char → Option Way
  | [] => (settle (reach p ⟨before, none⟩ position ways)).2
  | c :: text =>
    let (waiting, found) := settle (reach p ⟨before, some c⟩ position ways)
    (race p (some c) (position + 1) (waiting.filterMap (advance c)) text).or found

/-- The same, from the ways that wait at a position. -/
def proceed (p : Program) (position : Nat) (found : List (Way × Instruction)) :
    List Char → Option Way
  | [] => (settle found).2
  | c :: text =>
    (race p (some c) (position + 1) ((settle found).1.filterMap (advance c)) text).or
      (settle found).2

variable {p : Program} {before : Option Char} {position : Nat}

theorem race_eq_proceed (ways : List Way) (text : List Char) :
    race p before position ways text
      = proceed p position (reach p ⟨before, text.head?⟩ position ways) text := by
  cases text with
  | nil => rfl
  | cons c text => rfl

/-! ## Settling and advancing -/

theorem settle_cons_of_ne {f : Way × Instruction} (hf : f.2 ≠ .accept)
    (found : List (Way × Instruction)) :
    settle (f :: found) = (f :: (settle found).1, (settle found).2) := by
  obtain ⟨w, i⟩ := f
  cases i with
  | accept => exact absurd rfl hf
  | _ => rfl

/-- Nothing is dropped as long as no way accepts. -/
theorem settle_of_none {found : List (Way × Instruction)} (h : ∀ f ∈ found, f.2 ≠ .accept) :
    settle found = (found, none) := by
  induction found with
  | nil => rfl
  | cons f found ih =>
      obtain ⟨hf, hfound⟩ := List.forall_mem_cons.mp h
      rw [settle_cons_of_ne hf, ih hfound]

/-- The first way that accepts ends the list. -/
theorem settle_append_accept {front : List (Way × Instruction)} (h : ∀ f ∈ front, f.2 ≠ .accept)
    (w : Way) (rest : List (Way × Instruction)) :
    settle (front ++ (w, .accept) :: rest) = (front, some w) := by
  induction front with
  | nil => rfl
  | cons f front ih =>
      obtain ⟨hf, hfront⟩ := List.forall_mem_cons.mp h
      rw [List.cons_append, settle_cons_of_ne hf, ih hfront]

/-- What stands behind ways none of which accepts is settled by itself. -/
theorem settle_append_of_none {front : List (Way × Instruction)}
    (h : ∀ f ∈ front, f.2 ≠ .accept) (rest : List (Way × Instruction)) :
    settle (front ++ rest) = (front ++ (settle rest).1, (settle rest).2) := by
  induction front with
  | nil => rfl
  | cons f front ih =>
      obtain ⟨hf, hfront⟩ := List.forall_mem_cons.mp h
      rw [List.cons_append, settle_cons_of_ne hf, ih hfront]
      rfl

/-- Either no way accepts, or one of them is the first. -/
theorem accepts_cases (found : List (Way × Instruction)) :
    (∀ f ∈ found, f.2 ≠ .accept)
      ∨ ∃ front w rest, found = front ++ (w, .accept) :: rest ∧ ∀ f ∈ front, f.2 ≠ .accept := by
  induction found with
  | nil => exact .inl (List.forall_mem_nil _)
  | cons f found ih =>
      by_cases hf : f.2 = .accept
      · refine .inr ⟨[], f.1, found, ?_, List.forall_mem_nil _⟩
        rw [← hf]
        rfl
      · rcases ih with hnone | ⟨front, w, rest, hfound, hfront⟩
        · exact .inl (List.forall_mem_cons.mpr ⟨hf, hnone⟩)
        · exact .inr ⟨f :: front, w, rest, congrArg (f :: ·) hfound,
            List.forall_mem_cons.mpr ⟨hf, hfront⟩⟩

theorem mem_of_mem_settle {found : List (Way × Instruction)} {f : Way × Instruction}
    (h : f ∈ (settle found).1) : f ∈ found := by
  rcases accepts_cases found with hnone | ⟨front, w, rest, rfl, hfront⟩
  · rw [settle_of_none hnone] at h
    exact h
  · rw [settle_append_accept hfront] at h
    exact List.mem_append_left _ h

theorem accept_mem_of_settle {found : List (Way × Instruction)} {w : Way}
    (h : (settle found).2 = some w) : (w, .accept) ∈ found := by
  rcases accepts_cases found with hnone | ⟨front, v, rest, rfl, hfront⟩
  · rw [settle_of_none hnone] at h
    cases h
  · rw [settle_append_accept hfront] at h
    have hv : v = w := Option.some.inj h
    exact hv ▸ List.mem_append_right _ (List.mem_cons_self ..)

theorem advance_eq_some {c : Char} {f : Way × Instruction} {w : Way} :
    advance c f = some w ↔ ∃ set next, f.2 = .take set next ∧ set.contains c = true
      ∧ { f.1 with address := next } = w := by
  obtain ⟨v, i⟩ := f
  cases i with
  | take set next =>
      rw [advance]
      by_cases hc : set.contains c = true
      · rw [if_pos hc]
        constructor
        · intro h
          exact ⟨set, next, rfl, hc, Option.some.inj h⟩
        · rintro ⟨set', next', htake, -, hw⟩
          obtain ⟨-, rfl⟩ := Instruction.take.inj htake
          exact congrArg some hw
      · rw [if_neg hc]
        constructor
        · intro h
          cases h
        · rintro ⟨set', next', htake, hc', -⟩
          obtain ⟨rfl, -⟩ := Instruction.take.inj htake
          exact absurd hc' hc
  | _ =>
      constructor
      · intro h
        cases h
      · rintro ⟨set, next, h, -⟩
        cases h

/-! ## When there is a match, and what it is -/

theorem proceed_nil_eq_none {found : List (Way × Instruction)} :
    proceed p position found [] = none ↔ ¬ ∃ f ∈ found, Proceeds p [] f.2 := by
  rw [proceed]
  rcases accepts_cases found with hnone | ⟨front, w, rest, rfl, hfront⟩
  · rw [settle_of_none hnone]
    refine ⟨fun _ ⟨f, hf, hproceeds⟩ => ?_, fun _ => rfl⟩
    cases hi : f.2 with
    | accept => exact hnone f hf hi
    | _ =>
        rw [hi] at hproceeds
        cases hproceeds
  · rw [settle_append_accept hfront]
    constructor
    · intro h
      cases h
    · intro h
      exact absurd ⟨_, List.mem_append_right _ (List.mem_cons_self ..), .accept⟩ h

/-- Ways that took a character have a path behind it just when they proceeded. -/
theorem exists_leads_filterMap {c : Char} {text : List Char} {found : List (Way × Instruction)}
    (hnone : ∀ f ∈ found, f.2 ≠ .accept) :
    (∃ w ∈ found.filterMap (advance c), Leads p (some c) text w.address)
      ↔ ∃ f ∈ found, Proceeds p (c :: text) f.2 := by
  constructor
  · rintro ⟨w, hw, hleads⟩
    obtain ⟨f, hf, hadvance⟩ := List.mem_filterMap.mp hw
    obtain ⟨set, next, htake, hc, rfl⟩ := advance_eq_some.mp hadvance
    exact ⟨f, hf, htake ▸ .take hc hleads⟩
  · rintro ⟨f, hf, hproceeds⟩
    cases hi : f.2 with
    | accept => exact absurd hi (hnone f hf)
    | take set next =>
        rw [hi] at hproceeds
        cases hproceeds with
        | take hc hleads =>
            exact ⟨_, List.mem_filterMap.mpr ⟨f, hf, advance_eq_some.mpr ⟨set, next, hi, hc, rfl⟩⟩,
              hleads⟩
    | _ =>
        rw [hi] at hproceeds
        cases hproceeds

/-- What waits comes to a match just when something of it proceeds. -/
theorem proceed_cons_eq_none {c : Char} {text : List Char} {found : List (Way × Instruction)}
    (hrace : ∀ ways, race p (some c) (position + 1) ways text = none
      ↔ ¬ ∃ w ∈ ways, Leads p (some c) text w.address) :
    proceed p position found (c :: text) = none ↔ ¬ ∃ f ∈ found, Proceeds p (c :: text) f.2 := by
  rw [proceed]
  rcases accepts_cases found with hnone | ⟨front, w, rest, rfl, hfront⟩
  · rw [settle_of_none hnone, Option.or_none, hrace, exists_leads_filterMap hnone]
  · rw [settle_append_accept hfront]
    constructor
    · intro h
      rw [Option.or_eq_none_iff] at h
      cases h.2
    · intro h
      exact absurd ⟨_, List.mem_append_right _ (List.mem_cons_self ..), .accept⟩ h

/-- No way matches just when no path leads from any of them. -/
theorem race_eq_none (text : List Char) :
    ∀ (before : Option Char) (position : Nat) (ways : List Way),
      race p before position ways text = none
        ↔ ¬ ∃ w ∈ ways, Leads p before text w.address := by
  induction text with
  | nil =>
      intro before position ways
      rw [race_eq_proceed, proceed_nil_eq_none, exists_leads_iff]
  | cons c text ih =>
      intro before position ways
      rw [race_eq_proceed, proceed_cons_eq_none (ih (some c) (position + 1)), exists_leads_iff]

theorem proceed_eq_none (found : List (Way × Instruction)) (text : List Char) :
    proceed p position found text = none ↔ ¬ ∃ f ∈ found, Proceeds p text f.2 := by
  cases text with
  | nil => exact proceed_nil_eq_none
  | cons c text => exact proceed_cons_eq_none (race_eq_none text (some c) (position + 1))

/-- What ways come to is the end of a path from one of them. -/
theorem exists_path_of_race (text : List Char) :
    ∀ {before : Option Char} {position : Nat} {ways : List Way} {r : Way},
      race p before position ways text = some r →
        ∃ w ∈ ways, Path p before position text w r := by
  induction text with
  | nil =>
      intro before position ways r h
      have hr := accept_mem_of_settle h
      exact exists_path_of_mem_reach hr (.accept (waits_of_mem_reach hr).1)
  | cons c text ih =>
      intro before position ways r h
      rw [race_eq_proceed, proceed] at h
      rcases Option.or_eq_some_iff.mp h with hlater | ⟨-, hnow⟩
      · obtain ⟨v, hv, hpath⟩ := ih hlater
        obtain ⟨f, hf, hadvance⟩ := List.mem_filterMap.mp hv
        obtain ⟨set, next, htake, hc, rfl⟩ := advance_eq_some.mp hadvance
        have hf := mem_of_mem_settle hf
        exact exists_path_of_mem_reach hf (.take (htake ▸ (waits_of_mem_reach hf).1) hc hpath)
      · have hr := accept_mem_of_settle hnow
        exact exists_path_of_mem_reach hr (.accept (waits_of_mem_reach hr).1)

/-! ## Ways side by side -/

/-- Ways side by side come to what the first of them come to, and else to what the others do. -/
def Shared (p : Program) (text : List Char) : Prop :=
  ∀ (before : Option Char) (position : Nat) (ways₁ ways₂ : List Way),
    race p before position (ways₁ ++ ways₂) text
      = (race p before position ways₁ text).or (race p before position ways₂ text)

/-- What waits in front of a text is shared out as the text behind the next character is. -/
theorem proceed_append {text : List Char} (hrest : ∀ c rest, text = c :: rest → Shared p rest)
    (found₁ found₂ : List (Way × Instruction)) :
    proceed p position (found₁ ++ found₂) text
      = (proceed p position found₁ text).or (proceed p position found₂ text) := by
  cases text with
  | nil =>
      rw [proceed, proceed, proceed]
      rcases accepts_cases found₁ with hnone | ⟨front, w, rest, rfl, hfront⟩
      · rw [settle_append_of_none hnone, settle_of_none hnone, Option.none_or]
      · rw [settle_append_accept hfront, List.append_assoc, List.cons_append,
          settle_append_accept hfront, Option.some_or]
  | cons c text =>
      rw [proceed, proceed, proceed]
      rcases accepts_cases found₁ with hnone | ⟨front, w, rest, rfl, hfront⟩
      · rw [settle_append_of_none hnone, settle_of_none hnone, Option.or_none,
          List.filterMap_append, hrest c text rfl, Option.or_assoc]
      · rw [settle_append_accept hfront, List.append_assoc, List.cons_append,
          settle_append_accept hfront, Option.or_assoc, Option.some_or]

/-- Ways that come to nothing can be left out. -/
theorem proceed_filter {text : List Char} (hrest : ∀ c rest, text = c :: rest → Shared p rest)
    (keep : Way × Instruction → Bool) {found : List (Way × Instruction)}
    (hdrop : ∀ f ∈ found, keep f = false → ¬ Proceeds p text f.2) :
    proceed p position (found.filter keep) text = proceed p position found text := by
  induction found with
  | nil => rfl
  | cons f found ih =>
      obtain ⟨hf, hfound⟩ := List.forall_mem_cons.mp hdrop
      have hcons := @proceed_append p position text hrest [f]
      rw [← List.singleton_append, hcons]
      cases hkeep : keep f with
      | true =>
          rw [List.singleton_append, List.filter_cons_of_pos hkeep, ← List.singleton_append, hcons,
            ih hfound]
      | false =>
          have hnone : proceed p position [f] text = none := by
            rw [proceed_eq_none]
            rintro ⟨f', hf', hproceeds⟩
            rw [List.mem_singleton.mp hf'] at hproceeds
            exact hf hkeep hproceeds
          rw [List.singleton_append, List.filter_cons_of_neg (Bool.eq_false_iff.mp hkeep),
            ih hfound, hnone, Option.none_or]

open Classical in
/-- The step of the induction: a way that is lost to one above it matches only if that does. -/
theorem shared_of_rest {text : List Char} (hrest : ∀ c rest, text = c :: rest → Shared p rest) :
    Shared p text := by
  intro before position ways₁ ways₂
  obtain ⟨s, -, hfound, happend⟩ :=
    reach_append p ⟨before, text.head?⟩ position ways₁ ways₂
  rw [race_eq_proceed, race_eq_proceed, race_eq_proceed, happend, proceed_append hrest]
  cases hfirst : proceed p position (reach p ⟨before, text.head?⟩ position ways₁) text with
  | some r => rw [Option.some_or, Option.some_or]
  | none =>
      -- the first ways come to nothing, so whatever is lost to them would have come to nothing too
      rw [Option.none_or, Option.none_or]
      refine proceed_filter hrest _ fun f hf hkeep hproceeds => ?_
      have hmem : f.1.address ∈ s := by simpa using hkeep
      obtain ⟨hi, hwaits⟩ := waits_of_mem_reach hf
      obtain ⟨w, hw, -⟩ := hfound _ hmem f.2 hi hwaits
      exact (proceed_eq_none _ _).mp hfirst ⟨_, hw, hproceeds⟩

theorem shared (text : List Char) : Shared p text := by
  induction text with
  | nil => exact shared_of_rest fun c rest h => by cases h
  | cons c text ih => exact shared_of_rest fun c' rest h => (List.cons.inj h).2 ▸ ih

/-! ## The search -/

/-- The way in which a match begins. -/
def start (entry : Nat) : Way := ⟨entry, 0, none⟩

/-- Try the positions of a text one after the other. -/
def scan (p : Program) (entry : Nat) : Option Char → Nat → List Char → Option Way
  | before, position, [] => race p before position [start entry] []
  | before, position, c :: text =>
    (race p before position [start entry] (c :: text)).or
      (scan p entry (some c) (position + 1) text)

theorem race_nil (text : List Char) : race p before position [] text = none := by
  rw [race_eq_none]
  rintro ⟨w, hw, -⟩
  cases hw

theorem arrive_some (entry : Nat) (n : Neighbours) (ways : List Way) (m : Way) :
    arrive p entry n position ways (some m) = ((settle (reach p n position ways)).1,
      (settle (reach p n position ways)).2.or (some m)) := rfl

theorem arrive_none (entry : Nat) (n : Neighbours) (ways : List Way) :
    arrive p entry n position ways none = settle (reach p n position (ways ++ [start entry])) :=
  Prod.ext rfl Option.or_none

/-- Without ways a match is final. -/
private theorem exit_eq {entry : Nat} {ways : List Way} {m : Way} {text : List Char}
    (h : searchFrom p entry before position ways (some m) text
      = (race p before position ways text).or (some m)) :
    (if ways.isEmpty && (some m).isSome then some m
      else searchFrom p entry before position ways (some m) text)
      = (race p before position ways text).or (some m) := by
  cases ways with
  | nil =>
      rw [race_nil]
      rfl
  | cons w ways => exact h

/-- Once there is a match, no way begins any more. -/
theorem searchFrom_some (entry : Nat) (text : List Char) :
    ∀ (before : Option Char) (position : Nat) (ways : List Way) (m : Way),
      searchFrom p entry before position ways (some m) text
        = (race p before position ways text).or (some m) := by
  induction text with
  | nil =>
      intro before position ways m
      rw [searchFrom, arrive_some, race]
  | cons c text ih =>
      intro before position ways m
      rw [searchFrom, arrive_some, race]
      dsimp only
      cases (settle (reach p ⟨before, some c⟩ position ways)).2 with
      | none => rw [Option.none_or, Option.or_none, exit_eq (ih _ _ _ _)]
      | some m' => rw [Option.some_or, exit_eq (ih _ _ _ _), Option.or_assoc, Option.some_or]

/-- Until there is a match, a way begins at every position. -/
theorem searchFrom_none (entry : Nat) (text : List Char) :
    ∀ (before : Option Char) (position : Nat) (ways : List Way),
      searchFrom p entry before position ways none text
        = (race p before position ways text).or (scan p entry before position text) := by
  induction text with
  | nil =>
      intro before position ways
      -- the way that begins here stands last, so it can be split off
      rw [searchFrom, arrive_none, scan, ← shared [] before position ways [start entry], race]
  | cons c text ih =>
      intro before position ways
      rw [searchFrom, arrive_none, scan, ← Option.or_assoc,
        ← shared (c :: text) before position ways [start entry], race]
      dsimp only
      cases (settle (reach p ⟨before, some c⟩ position (ways ++ [start entry]))).2 with
      | none =>
          rw [Option.isSome_none, Bool.and_false, if_neg Bool.false_ne_true, ih, Option.or_none]
      | some m =>
          rw [exit_eq (searchFrom_some entry text _ _ _ _), Option.or_assoc, Option.some_or]

theorem search_eq_scan (entry : Nat) (text : List Char) :
    search p entry text = scan p entry none 0 text := by
  rw [search, searchFrom_none, race_nil, Option.none_or]

/-- The preferred of the matches that begin at a place of a text. -/
def raceAt (p : Program) (entry : Nat) (text : List Char) (i : Nat) : Option Way :=
  race p (text.take i).getLast? i [start entry] (text.drop i)

/-- A match that begins at a place of a text. -/
def MatchesAt (p : Program) (entry : Nat) (text : List Char) (i : Nat) (r : Way) : Prop :=
  i ≤ text.length ∧ Path p (text.take i).getLast? i (text.drop i) (start entry) r

theorem matchesAt_of_raceAt {entry : Nat} {text : List Char} {i : Nat} {r : Way}
    (hi : i ≤ text.length) (h : raceAt p entry text i = some r) : MatchesAt p entry text i r := by
  obtain ⟨w, hw, hpath⟩ := exists_path_of_race _ h
  exact ⟨hi, List.mem_singleton.mp hw ▸ hpath⟩

theorem not_matchesAt_of_raceAt {entry : Nat} {text : List Char} {i : Nat}
    (h : raceAt p entry text i = none) (r : Way) : ¬ MatchesAt p entry text i r := by
  rintro ⟨-, hpath⟩
  exact (race_eq_none _ _ _ _).mp h
    ⟨_, List.mem_singleton_self _, (leads_iff_exists_path i).mpr ⟨r, hpath⟩⟩

/-- The place behind a beginning of a text. -/
private theorem raceAt_append (entry : Nat) (skipped rest : List Char) :
    raceAt p entry (skipped ++ rest) skipped.length
      = race p skipped.getLast? skipped.length [start entry] rest := by
  rw [raceAt, List.take_left, List.drop_left]

/-- A scan comes to the match at the first place where one begins. -/
theorem exists_raceAt_of_scan {entry : Nat} {r : Way} (rest : List Char) :
    ∀ skipped : List Char, scan p entry skipped.getLast? skipped.length rest = some r →
      ∃ i, i ≤ (skipped ++ rest).length ∧ raceAt p entry (skipped ++ rest) i = some r
        ∧ ∀ j, skipped.length ≤ j → j < i → raceAt p entry (skipped ++ rest) j = none := by
  induction rest with
  | nil =>
      intro skipped h
      rw [scan, ← raceAt_append] at h
      refine ⟨skipped.length, ?_, h, fun j hle hlt => absurd hlt (Nat.not_lt.mpr hle)⟩
      rw [List.length_append]
      omega
  | cons c rest ih =>
      intro skipped h
      rw [scan, ← raceAt_append] at h
      rcases Option.or_eq_some_iff.mp h with hnow | ⟨hnone, hlater⟩
      · refine ⟨skipped.length, ?_, hnow, fun j hle hlt => absurd hlt (Nat.not_lt.mpr hle)⟩
        rw [List.length_append]
        omega
      · -- the character moves over to what is in front
        have hlast : (skipped ++ [c]).getLast? = some c := List.getLast?_concat
        have hlength : (skipped ++ [c]).length = skipped.length + 1 := List.length_append
        have htext : skipped ++ c :: rest = (skipped ++ [c]) ++ rest := by
          rw [List.append_assoc, List.singleton_append]
        rw [← hlast, ← hlength] at hlater
        obtain ⟨i, hi, hrace, hbefore⟩ := ih _ hlater
        rw [← htext] at hi hrace hbefore
        refine ⟨i, hi, hrace, fun j hle hlt => ?_⟩
        rcases Nat.lt_or_eq_of_le hle with hlt' | heq
        · exact hbefore j (by omega) hlt
        · exact heq ▸ hnone

/-- A scan in vain has tried every place. -/
theorem raceAt_eq_none_of_scan {entry : Nat} (rest : List Char) :
    ∀ skipped : List Char, scan p entry skipped.getLast? skipped.length rest = none →
      ∀ i, skipped.length ≤ i → i ≤ (skipped ++ rest).length →
        raceAt p entry (skipped ++ rest) i = none := by
  induction rest with
  | nil =>
      intro skipped h i hle hi
      rw [scan, ← raceAt_append] at h
      rw [List.append_nil] at hi
      exact Nat.le_antisymm hle hi ▸ h
  | cons c rest ih =>
      intro skipped h i hle hi
      rw [scan, ← raceAt_append, Option.or_eq_none_iff] at h
      obtain ⟨hnow, hlater⟩ := h
      have hlast : (skipped ++ [c]).getLast? = some c := List.getLast?_concat
      have hlength : (skipped ++ [c]).length = skipped.length + 1 := List.length_append
      have htext : skipped ++ c :: rest = (skipped ++ [c]) ++ rest := by
        rw [List.append_assoc, List.singleton_append]
      rw [← hlast, ← hlength] at hlater
      rcases Nat.lt_or_eq_of_le hle with hlt | heq
      · rw [htext] at hi ⊢
        exact ih _ hlater i (by omega) hi
      · exact heq ▸ hnow

/-- What a search finds is a match, and none begins before it. -/
theorem leftmost_of_search {entry : Nat} {text : List Char} {r : Way}
    (h : search p entry text = some r) :
    ∃ i, MatchesAt p entry text i r ∧ ∀ j < i, ∀ r', ¬ MatchesAt p entry text j r' := by
  rw [search_eq_scan] at h
  obtain ⟨i, hi, hrace, hbefore⟩ := exists_raceAt_of_scan text [] h
  exact ⟨i, matchesAt_of_raceAt hi hrace,
    fun j hj => not_matchesAt_of_raceAt (hbefore j (Nat.zero_le _) hj)⟩

/-- A search finds nothing just when there is no match. -/
theorem search_eq_none {entry : Nat} {text : List Char} :
    search p entry text = none ↔ ∀ i r, ¬ MatchesAt p entry text i r := by
  constructor
  · intro h i r hmatch
    rw [search_eq_scan] at h
    exact not_matchesAt_of_raceAt
      (raceAt_eq_none_of_scan text [] h i (Nat.zero_le _) hmatch.1) r hmatch
  · intro h
    cases hsearch : search p entry text with
    | none => rfl
    | some r =>
        obtain ⟨i, hmatch, -⟩ := leftmost_of_search hsearch
        exact absurd hmatch (h i r)

end ReleaseGate.Pattern
