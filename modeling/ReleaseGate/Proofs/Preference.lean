import ReleaseGate.Proofs.Codes

/-!
# The preferred match

A core pattern lists the spots at which it may end, the preferred first: the first branch of an
alternation comes before the second, and a greedy repetition has more rounds before fewer. This is
the order in which one would try the ways one after the other. A search follows them side by side
and enters no instruction twice at one position; it still comes to the first spot of the list.

What could go wrong is a loop that is gone through without taking a character: it would meet its own
address again. So a repetition without bound must have a body that takes a character, and then no
address is met again, which is said here by well-founded falling from address to address.
-/

namespace ReleaseGate.Pattern

open Relation Unicode

/-! ## The ends of a core, in order of preference -/

namespace Spot

/-- The spot behind the next character. -/
def past (s : Spot) (c : Char) (rest : List Char) : Spot :=
  { s with before := some c, position := s.position + 1, rest := rest }

/-- The spot behind the next character, if that is in a set. -/
def taking (set : CharSet) (s : Spot) : List Spot :=
  match s.rest with
  | [] => []
  | c :: rest => if set.contains c then [s.past c rest] else []

end Spot

/-- What is tried when going on is preferred, or when it is not. -/
def inOrder {α : Type} (greedy : Bool) (into past : List α) : List α :=
  if greedy then into ++ past else past ++ into

/-- The ends of exactly so many rounds. -/
def rounds (f : Spot → List Spot) : Nat → Spot → List Spot
  | 0, s => [s]
  | n + 1, s => (f s).flatMap (rounds f n)

/-- The ends of at most so many rounds. -/
def roundsUpTo (greedy : Bool) (f : Spot → List Spot) : Nat → Spot → List Spot
  | 0, s => [s]
  | n + 1, s => inOrder greedy ((f s).flatMap (roundsUpTo greedy f n)) [s]

namespace Core

/-- The spots at which a pattern may end, the preferred first. Without a bound there is at most one
round for each character that is left. -/
def ends : Core → Spot → List Spot
  | empty => fun s => [s]
  | set chars => Spot.taking chars
  | look condition => fun s => if condition.holds s.neighbours then [s] else []
  | seq a b => fun s => (a.ends s).flatMap b.ends
  | alt a b => fun s => a.ends s ++ b.ends s
  | rep least most greedy body => fun s =>
    (rounds body.ends least s).flatMap fun t =>
      roundsUpTo greedy body.ends (most.elim t.rest.length (· - least)) t
  | group index body =>
    if index = 1 then fun s => (body.ends s.begun).map Spot.ended else body.ends

/-- The body of every repetition without bound takes a character. -/
def Steady : Core → Prop
  | empty | set _ | look _ => True
  | seq a b | alt a b => a.Steady ∧ b.Steady
  | rep _ most _ body => (most = none → body.nullable = false) ∧ body.Steady
  | group _ body => body.Steady

/-- What the first group takes in the preferred of the matches that begin first. -/
inductive Finds (c : Core) (text : String) : Option String → Prop where
  | first {i : Nat} {t : Spot} :
      i ≤ text.toList.length → (c.ends (Spot.within text.toList i)).head? = some t →
      (∀ j < i, c.ends (Spot.within text.toList j) = []) →
      Finds c text (t.taken.map fun taken => between text.toList taken.1 taken.2)
  | nowhere :
      (∀ i ≤ text.toList.length, c.ends (Spot.within text.toList i) = []) → Finds c text none

end Core

/-! ## What is left behind a round -/

/-- Every end leaves less of the text, unless nothing need be taken. -/
def Shrinks (nullable : Bool) (f : Spot → List Spot) : Prop :=
  ∀ s, ∀ t ∈ f s, t.rest.length + (if nullable then 0 else 1) ≤ s.rest.length

theorem mem_inOrder {α : Type} {greedy : Bool} {into past : List α} {x : α} :
    x ∈ inOrder greedy into past ↔ x ∈ into ∨ x ∈ past := by
  cases greedy with
  | true => exact List.mem_append
  | false => exact List.mem_append.trans or_comm

theorem rounds_succ (f : Spot → List Spot) (n : Nat) (s : Spot) :
    rounds f (n + 1) s = (rounds f n s).flatMap f := by
  induction n generalizing s with
  | zero => simp [rounds]
  | succ n ih =>
      show (f s).flatMap (rounds f (n + 1)) = ((f s).flatMap (rounds f n)).flatMap f
      rw [List.flatMap_assoc]
      exact congrArg (List.flatMap · (f s)) (funext ih)

section Shrinks

variable {f g : Spot → List Spot} {m n : Bool}

theorem Shrinks.length_le (h : Shrinks n f) {s t : Spot} (ht : t ∈ f s) :
    t.rest.length ≤ s.rest.length :=
  Nat.le_trans (Nat.le_add_right ..) (h s t ht)

theorem shrinks_refl : Shrinks true fun s => [s] := by
  intro s t ht
  rw [List.mem_singleton.mp ht]
  exact Nat.le_refl _

theorem shrinks_taking (set : CharSet) : Shrinks false (Spot.taking set) := by
  intro s t ht
  rw [Spot.taking] at ht
  cases hrest : s.rest with
  | nil => simp [hrest] at ht
  | cons c rest =>
      rw [hrest] at ht
      dsimp only at ht
      by_cases hc : set.contains c = true
      · rw [if_pos hc, List.mem_singleton] at ht
        rw [ht]
        exact Nat.le_refl _
      · simp [hc] at ht

theorem Shrinks.comp (hf : Shrinks m f) (hg : Shrinks n g) :
    Shrinks (m && n) fun s => (f s).flatMap g := by
  intro s t ht
  obtain ⟨u, hu, ht⟩ := List.mem_flatMap.mp ht
  have hsu := hf s u hu
  have hut := hg u t ht
  cases m <;> cases n <;> simp at hsu hut ⊢ <;> omega

theorem Shrinks.rounds (hf : Shrinks m f) (k : Nat) : Shrinks (k == 0 || m) (rounds f k) := by
  induction k with
  | zero => exact shrinks_refl
  | succ k ih =>
      have h := hf.comp ih
      have hnull : (m && (k == 0 || m)) = (k + 1 == 0 || m) := by cases m <;> simp
      rw [hnull] at h
      exact h

theorem Shrinks.roundsUpTo (hf : Shrinks m f) (greedy : Bool) (k : Nat) :
    Shrinks true (roundsUpTo greedy f k) := by
  induction k with
  | zero => exact shrinks_refl
  | succ k ih =>
      intro s t ht
      rcases mem_inOrder.mp ht with ht | ht
      · exact (hf.comp ih).length_le ht
      · exact shrinks_refl s t ht

end Shrinks

/-- A pattern leaves less of the text at each of its ends, unless it can match nothing. -/
theorem Core.shrinks_ends (c : Core) : Shrinks c.nullable c.ends := by
  induction c with
  | empty => exact shrinks_refl
  | set chars => exact shrinks_taking chars
  | look condition =>
      intro s t ht
      have ht : t ∈ if condition.holds s.neighbours then [s] else [] := ht
      by_cases hholds : condition.holds s.neighbours = true
      · rw [if_pos hholds] at ht
        exact shrinks_refl s t ht
      · simp [hholds] at ht
  | seq a b iha ihb => exact iha.comp ihb
  | alt a b iha ihb =>
      intro s t ht
      rw [Core.nullable]
      rcases List.mem_append.mp ht with ht | ht
      · have := iha s t ht
        cases ha : a.nullable <;> cases hb : b.nullable <;> simp [ha] at this ⊢ <;> omega
      · have := ihb s t ht
        cases ha : a.nullable <;> cases hb : b.nullable <;> simp [hb] at this ⊢ <;> omega
  | rep least most greedy body ih =>
      intro s t ht
      obtain ⟨u, hu, ht⟩ := List.mem_flatMap.mp ht
      have hsu := ih.rounds least s u hu
      have hut := (ih.roundsUpTo greedy _).length_le ht
      exact Nat.le_trans (Nat.add_le_add_right hut _) hsu
  | group index body ih =>
      rw [Core.ends]
      by_cases hindex : index = 1
      · rw [if_pos hindex]
        intro s t ht
        obtain ⟨u, hu, rfl⟩ := List.mem_map.mp ht
        exact ih s.begun u hu
      · rw [if_neg hindex]
        exact ih

/-! ## What one instruction comes to -/

/-- The way that wins from an address and a spot, when no other begins. -/
def outcome (p : Program) (a : Nat) (s : Spot) : Option Way :=
  race p s.before s.position [s.way a] s.rest

/-- From one address to another without taking a character, if the conditions allow it. -/
def Falls (p : Program) (b a : Nat) : Prop :=
  ∃ n i, p[a]? = some i ∧ b ∈ i.exits n

/-- From an address one cannot fall for ever. -/
def Grounded (p : Program) (a : Nat) : Prop :=
  Acc (Falls p) a

variable {p : Program}

/-- The ways on from an instruction are one step down. -/
theorem falls_of_mem_branches {n : Neighbours} {position : Nat} {w v : Way} {i : Instruction}
    (hi : p[w.address]? = some i) (hv : v ∈ w.branches n position i) :
    Falls p v.address w.address := by
  refine ⟨n, i, hi, ?_⟩
  rw [← w.map_address_branches n position]
  exact List.mem_map_of_mem hv

theorem grounded_of_exits {a : Nat} {i : Instruction} (hi : p[a]? = some i)
    (h : ∀ n, ∀ b ∈ i.exits n, Grounded p b) : Grounded p a := by
  refine Acc.intro a ?_
  rintro b ⟨n, j, hj, hb⟩
  rw [hi, Option.some_inj] at hj
  exact h n b (hj ▸ hb)

/-- An address from which one cannot fall for ever is not met again. -/
theorem Grounded.not_transGen {a : Nat} (h : Grounded p a) : ¬ TransGen (Falls p) a a := by
  induction h with
  | intro a _ ih =>
      intro hloop
      obtain ⟨b, hab, hba⟩ := TransGen.tail'_iff.mp hloop
      -- the last step of the loop comes from an address that lies on the loop itself
      exact ih b hba (TransGen.head' hba hab)

/-- An address that is not met again need not count as entered. -/
theorem Follows.without {n : Neighbours} {position a : Nat} {seen s seen' : Set Nat}
    {ways : List Way} {found : List (Way × Instruction)} (hs : s = insert a seen)
    (h : Follows p n position s ways found seen')
    (hmet : ∀ w ∈ ways, ¬ ReflTransGen (Falls p) a w.address) :
    ∃ seen'', Follows p n position seen ways found seen'' := by
  induction h generalizing seen with
  | nil => exact ⟨seen, .nil⟩
  | again hseen _ ih =>
      obtain ⟨hw, hways⟩ := List.forall_mem_cons.mp hmet
      obtain ⟨seen'', hrest⟩ := ih hs hways
      rw [hs] at hseen
      rcases Set.mem_insert_iff.mp hseen with heq | hseen
      · exact absurd (heq ▸ .refl) hw
      · exact ⟨seen'', .again hseen hrest⟩
  | nowhere hnone _ ih =>
      obtain ⟨seen'', hrest⟩ := ih hs (List.forall_mem_cons.mp hmet).2
      exact ⟨seen'', .nowhere hnone hrest⟩
  | @waits _ _ w i ways found hnew hi hwaits _ ih =>
      obtain ⟨seen'', hrest⟩ := @ih (insert w.address seen) (by rw [hs, Set.insert_comm])
        (List.forall_mem_cons.mp hmet).2
      exact ⟨seen'', .waits (fun h => hnew (hs ▸ Set.mem_insert_of_mem a h)) hi hwaits hrest⟩
  | @goes _ _ w i ways found hnew hi hgoes _ ih =>
      obtain ⟨hw, hways⟩ := List.forall_mem_cons.mp hmet
      obtain ⟨seen'', hrest⟩ := @ih (insert w.address seen) (by rw [hs, Set.insert_comm]) <| by
        intro v hv
        rcases List.mem_append.mp hv with hv | hv
        · -- what is reached from a way on is reached from the way itself
          exact fun hreach => hw (hreach.tail (falls_of_mem_branches hi hv))
        · exact hways v hv
      exact ⟨seen'', .goes (fun h => hnew (hs ▸ Set.mem_insert_of_mem a h)) hi hgoes hrest⟩

section

variable {n : Neighbours} {before : Option Char} {position : Nat} {text : List Char} {w : Way}
  {i : Instruction}

/-- A way at an instruction that waits is all that is reached from it. -/
theorem reach_of_waits (hi : p[w.address]? = some i) (hwaits : i.waits = true) :
    reach p n position [w] = [(w, i)] := by
  obtain ⟨seen', h⟩ := follows_reach p n position [w]
  exact (h.unique (.waits (Set.notMem_empty _) hi hwaits .nil)).1

/-- From any other instruction one reaches what its ways on reach. -/
theorem reach_of_goes (hg : Grounded p w.address) (hi : p[w.address]? = some i)
    (hgoes : i.waits = false) :
    reach p n position [w] = reach p n position (w.branches n position i) := by
  obtain ⟨seen', h⟩ := follows_reach p n position [w]
  generalize reach p n position [w] = found at h
  cases h with
  | again hseen => exact absurd hseen (Set.notMem_empty _)
  | nowhere hnone =>
      rw [hi] at hnone
      cases hnone
  | waits _ hi' hwaits =>
      rw [hi, Option.some_inj] at hi'
      rw [← hi', hgoes] at hwaits
      cases hwaits
  | goes _ hi' _ hrest =>
      rw [hi, Option.some_inj] at hi'
      rw [← hi', List.append_nil] at hrest
      obtain ⟨seen'', hrest⟩ := hrest.without rfl <| by
        intro v hv hreach
        exact hg.not_transGen (TransGen.tail' hreach (falls_of_mem_branches hi hv))
      obtain ⟨_, hbranches⟩ := follows_reach p n position (w.branches n position i)
      exact (hrest.unique hbranches).1

theorem race_of_goes (hg : Grounded p w.address) (hi : p[w.address]? = some i)
    (hgoes : i.waits = false) :
    race p before position [w] text
      = race p before position (w.branches ⟨before, text.head?⟩ position i) text := by
  rw [race_eq_proceed, race_eq_proceed, reach_of_goes hg hi hgoes]

end

section

variable {a : Nat} (s : Spot)

theorem outcome_of_accept (ha : p[a]? = some .accept) : outcome p a s = some (s.way a) := by
  rw [outcome, race_eq_proceed, reach_of_waits ha rfl]
  cases s.rest with
  | nil => rfl
  | cons c rest =>
      show (race p (some c) (s.position + 1) [] rest).or (some (s.way a)) = _
      rw [race_nil, Option.none_or]

theorem outcome_of_take {set : CharSet} {next : Nat} (ha : p[a]? = some (.take set next)) :
    outcome p a s = (s.taking set).findSome? (outcome p next) := by
  rw [outcome, race_eq_proceed, reach_of_waits ha rfl, Spot.taking]
  cases s.rest with
  | nil => rfl
  | cons c rest =>
      show (race p (some c) (s.position + 1)
        ([(s.way a, .take set next)].filterMap (advance c)) rest).or none = _
      rw [Option.or_none, List.filterMap_cons, advance]
      by_cases hc : set.contains c = true
      · rw [if_pos hc]
        dsimp only
        rw [if_pos hc, List.findSome?_singleton]
        rfl
      · rw [if_neg hc]
        dsimp only
        rw [if_neg hc]
        exact race_nil rest

theorem outcome_of_check (hg : Grounded p a) {condition : Look} {next : Nat}
    (ha : p[a]? = some (.check condition next)) :
    outcome p a s
      = (if condition.holds s.neighbours then [s] else []).findSome? (outcome p next) := by
  rw [outcome, race_of_goes hg ha rfl, Way.branches]
  by_cases hholds : condition.holds s.neighbours = true
  · rw [if_pos hholds, if_pos (by exact hholds), List.findSome?_singleton]
    rfl
  · rw [if_neg hholds, if_neg (by exact hholds)]
    exact race_nil s.rest

theorem outcome_of_opening (hg : Grounded p a) {next : Nat} (ha : p[a]? = some (.opening next)) :
    outcome p a s = outcome p next s.begun := by
  rw [outcome, race_of_goes hg ha rfl]
  rfl

theorem outcome_of_closing (hg : Grounded p a) {next : Nat} (ha : p[a]? = some (.closing next)) :
    outcome p a s = outcome p next s.ended := by
  rw [outcome, race_of_goes hg ha rfl]
  rfl

/-- Of two ways on, the second counts only when the first comes to nothing. -/
theorem outcome_of_branch (hg : Grounded p a) {first second : Nat}
    (ha : p[a]? = some (.branch first second)) :
    outcome p a s = (outcome p first s).or (outcome p second s) := by
  rw [outcome, race_of_goes hg ha rfl]
  exact shared s.rest s.before s.position [s.way first] [s.way second]

end

/-! ## Parts of a program -/

/-- A part of a program comes to what the first end comes to that comes to anything at all. -/
structure Prefers (p : Program) (f : Spot → List Spot) (nullable : Bool) (entry next : Nat) :
    Prop where
  grounded : (nullable = true → Grounded p next) → Grounded p entry
  outcome_eq : Grounded p next → ∀ s, outcome p entry s = (f s).findSome? (outcome p next)

theorem findSome?_flatMap {α β γ : Type} (l : List α) (f : α → List β) (g : β → Option γ) :
    (l.flatMap f).findSome? g = l.findSome? fun x => (f x).findSome? g := by
  induction l with
  | nil => rfl
  | cons x l ih =>
      rw [List.flatMap_cons, List.findSome?_append, ih, List.findSome?_cons]
      cases (f x).findSome? g with
      | none => rfl
      | some y => rfl

theorem findSome?_congr {α β : Type} {l : List α} {g g' : α → Option β}
    (h : ∀ x ∈ l, g x = g' x) : l.findSome? g = l.findSome? g' := by
  induction l with
  | nil => rfl
  | cons x l ih =>
      obtain ⟨hx, hl⟩ := List.forall_mem_cons.mp h
      rw [List.findSome?_cons, List.findSome?_cons, hx, ih hl]

theorem findSome?_inOrder {α β : Type} (greedy : Bool) (into past : List α) (g : α → Option β) :
    (inOrder greedy into past).findSome? g
      = if greedy then (into.findSome? g).or (past.findSome? g)
        else (past.findSome? g).or (into.findSome? g) := by
  cases greedy with
  | true => exact List.findSome?_append
  | false => exact List.findSome?_append

namespace Prefers

variable {f g : Spot → List Spot} {m n : Bool} {entry middle next : Nat}

theorem refl : Prefers p (fun s => [s]) true next next where
  grounded h := h rfl
  outcome_eq _ _ := List.findSome?_singleton.symm

theorem comp (hf : Prefers p f m entry middle) (hg : Prefers p g n middle next) :
    Prefers p (fun s => (f s).flatMap g) (m && n) entry next where
  grounded h := by
    refine hf.grounded fun hm => hg.grounded fun hn => h ?_
    rw [hm, hn]
    rfl
  outcome_eq hnext s := by
    rw [hf.outcome_eq (hg.grounded fun _ => hnext) s, findSome?_flatMap]
    exact congrArg (List.findSome? · (f s)) (funext (hg.outcome_eq hnext))

theorem take {set : CharSet} (ha : p[entry]? = some (.take set next)) :
    Prefers p (Spot.taking set) false entry next where
  grounded _ := grounded_of_exits ha fun _ _ hb => nomatch hb
  outcome_eq _ s := outcome_of_take s ha

theorem check {condition : Look} (ha : p[entry]? = some (.check condition next)) :
    Prefers p (fun s => if condition.holds s.neighbours then [s] else []) true entry next := by
  have hgrounded : Grounded p next → Grounded p entry := by
    intro hnext
    refine grounded_of_exits ha fun n b hb => ?_
    rw [Instruction.exits] at hb
    by_cases hholds : condition.holds n = true
    · rw [if_pos hholds, List.mem_singleton] at hb
      exact hb ▸ hnext
    · simp [hholds] at hb
  exact ⟨fun h => hgrounded (h rfl), fun hnext s => outcome_of_check s (hgrounded hnext) ha⟩

theorem opening (ha : p[entry]? = some (.opening next)) :
    Prefers p (fun s => [s.begun]) true entry next := by
  have hgrounded : Grounded p next → Grounded p entry := fun hnext =>
    grounded_of_exits ha fun _ b hb => List.mem_singleton.mp hb ▸ hnext
  refine ⟨fun h => hgrounded (h rfl), fun hnext s => ?_⟩
  rw [List.findSome?_singleton, outcome_of_opening s (hgrounded hnext) ha]

theorem closing (ha : p[entry]? = some (.closing next)) :
    Prefers p (fun s => [s.ended]) true entry next := by
  have hgrounded : Grounded p next → Grounded p entry := fun hnext =>
    grounded_of_exits ha fun _ b hb => List.mem_singleton.mp hb ▸ hnext
  refine ⟨fun h => hgrounded (h rfl), fun hnext s => ?_⟩
  rw [List.findSome?_singleton, outcome_of_closing s (hgrounded hnext) ha]

section

variable {greedy : Bool} {into past : Nat}

theorem grounded_choice (ha : p[entry]? = some (Program.choice greedy into past))
    (hinto : Grounded p into) (hpast : Grounded p past) : Grounded p entry := by
  refine grounded_of_exits ha fun n b hb => ?_
  have hb : b = into ∨ b = past := by
    cases greedy with
    | true => simpa [Program.choice, Instruction.exits] using hb
    | false => simpa [Program.choice, Instruction.exits, or_comm] using hb
  rcases hb with rfl | rfl
  · exact hinto
  · exact hpast

theorem outcome_of_choice (ha : p[entry]? = some (Program.choice greedy into past))
    (hg : Grounded p entry) (s : Spot) :
    outcome p entry s = if greedy then (outcome p into s).or (outcome p past s)
      else (outcome p past s).or (outcome p into s) := by
  cases greedy with
  | true => exact outcome_of_branch s hg ha
  | false => exact outcome_of_branch s hg ha

theorem choice (ha : p[entry]? = some (Program.choice greedy into past))
    (hf : Prefers p f m into next) (hg : Prefers p g n past next) :
    Prefers p (fun s => inOrder greedy (f s) (g s)) (m || n) entry next where
  grounded h := by
    refine grounded_choice ha (hf.grounded fun hm => h ?_) (hg.grounded fun hn => h ?_)
    · rw [hm, Bool.true_or]
    · rw [hn, Bool.or_true]
  outcome_eq hnext s := by
    have hentry := grounded_choice ha (hf.grounded fun _ => hnext) (hg.grounded fun _ => hnext)
    rw [outcome_of_choice ha hentry, findSome?_inOrder, hf.outcome_eq hnext,
      hg.outcome_eq hnext]

end

/-- A loop around a body that takes a character goes round at most once for each that is left. -/
theorem loop {greedy : Bool} {again : Nat}
    (ha : p[again]? = some (Program.choice greedy entry next))
    (hf : Prefers p f false entry again) (hshrinks : Shrinks false f) :
    Prefers p (fun s => roundsUpTo greedy f s.rest.length s) true again next := by
  have hentry : Grounded p entry := hf.grounded fun h => nomatch h
  refine ⟨fun h => grounded_choice ha hentry (h rfl), fun hnext s => ?_⟩
  have hagain := grounded_choice ha hentry hnext
  -- the body shortens what is left, so the bound is kept from round to round
  have hbound : ∀ (k : Nat) (s : Spot), s.rest.length ≤ k →
      outcome p again s = (roundsUpTo greedy f k s).findSome? (outcome p next) := by
    intro k
    induction k with
    | zero =>
        intro s hs
        have hnil : f s = [] := by
          refine List.eq_nil_iff_forall_not_mem.mpr fun t ht => ?_
          have := hshrinks s t ht
          simp at this
          omega
        rw [outcome_of_choice ha hagain, hf.outcome_eq hagain, hnil, roundsUpTo]
        cases greedy with
        | true => simp
        | false => simp
    | succ k ih =>
        intro s hs
        have hround : (f s).findSome? (outcome p again)
            = ((f s).flatMap (roundsUpTo greedy f k)).findSome? (outcome p next) := by
          rw [findSome?_flatMap]
          refine findSome?_congr fun t ht => ih t ?_
          have := hshrinks s t ht
          simp at this
          omega
        rw [outcome_of_choice ha hagain, hf.outcome_eq hagain, hround, roundsUpTo,
          findSome?_inOrder, List.findSome?_singleton]
  exact hbound s.rest.length s (Nat.le_refl _)

end Prefers

/-! ## Code -/

/-- Code in front of any address comes to what the first end comes to. -/
def Orders (step : Nat → Program → Nat × Program) (f : Spot → List Spot) (nullable : Bool) :
    Prop :=
  ∀ next, Builds (step next) fun q entry => Prefers q f nullable entry next

namespace Orders

variable {f g : Spot → List Spot} {m n : Bool} {code code' : Nat → Program → Nat × Program}

theorem skip : Orders (fun next p => (next, p)) (fun s => [s]) true :=
  fun next => .skip next fun _ => .refl

theorem of_eq (hg : Orders code' f n) (h : ∀ next p, code next p = code' next p) :
    Orders code f n :=
  (funext fun next => funext fun p => h next p : code = code') ▸ hg

theorem congr (hf : Orders code f m) (hfg : f = g) (hmn : m = n) : Orders code g n :=
  hfg ▸ hmn ▸ hf

theorem of_instruction {i : Nat → Instruction}
    (hi : ∀ {q : Program} {entry next : Nat}, q[entry]? = some (i next) →
      Prefers q f n entry next) : Orders (fun next p => p.add (i next)) f n :=
  fun next => (Builds.add (i next)).imp fun _ _ h => hi h

/-- Code in front of code. -/
theorem comp (hf : Orders code f m) (hg : Orders code' g n) :
    Orders (fun next p => code (code' next p).1 (code' next p).2) (fun s => (f s).flatMap g)
      (m && n) := by
  intro next
  refine ((hg next).bind hf).imp ?_
  rintro q entry ⟨middle, hg, hf⟩
  exact hf.comp hg

/-- Code that may be passed by. -/
theorem pass (hf : Orders code f m) (greedy : Bool) :
    Orders (fun next p => (code next p).2.add (Program.choice greedy (code next p).1 next))
      (fun s => inOrder greedy (f s) [s]) true := by
  intro next
  refine ((hf next).bind fun entry => Builds.add (Program.choice greedy entry next)).imp ?_
  rintro q a ⟨entry, hf, ha⟩
  have h := Prefers.choice ha hf .refl
  rw [Bool.or_true] at h
  exact h

/-- Two codes side by side. -/
theorem alt (hf : Orders code f m) (hg : Orders code' g n) :
    Orders (fun next p => (code next (code' next p).2).2.add
        (.branch (code next (code' next p).2).1 (code' next p).1))
      (fun s => f s ++ g s) (m || n) := by
  intro next
  refine ((hg next).bind fun second =>
    (hf next).bind fun first => Builds.add (.branch first second)).imp ?_
  rintro q a ⟨second, hg, first, hf, ha⟩
  have hgreedy : q[a]? = some (Program.choice true first second) := ha
  exact Prefers.choice hgreedy hf hg

theorem times (hf : Orders code f m) (k : Nat) :
    Orders (Program.times code k) (rounds f k) (k == 0 || m) := by
  induction k with
  | zero => exact skip
  | succ k ih =>
      refine (ih.comp hf).congr (funext fun s => (rounds_succ f k s).symm) ?_
      cases m <;> simp

theorem upTo (hf : Orders code f m) (greedy : Bool) (k : Nat) :
    Orders (fun next => Program.times (Program.optional code greedy next) k next)
      (roundsUpTo greedy f k) true := by
  induction k with
  | zero => exact skip
  | succ k ih => exact ((hf.comp ih).pass greedy).of_eq fun next p => Codes.times_succ k next p

theorem freeLoop (hf : Orders code f false) (hshrinks : Shrinks false f) (greedy : Bool) :
    Orders (Program.freeLoop code greedy)
      (fun s => roundsUpTo greedy f s.rest.length s) true := by
  intro next
  refine (Builds.reserve hf _ (fun entry => Program.choice greedy entry next)
    fun again _ => again).imp ?_
  rintro q _ ⟨again, entry, rfl, hf, ha⟩
  exact .loop ha hf hshrinks

theorem loop (hf : Orders code f false) (hshrinks : Shrinks false f) (greedy : Bool) :
    Orders (Program.loop code greedy)
      (fun s => (f s).flatMap fun t => roundsUpTo greedy f t.rest.length t) false := by
  intro next
  refine (Builds.reserve hf _ (fun entry => Program.choice greedy entry next)
    fun _ entry => entry).imp ?_
  rintro q _ ⟨again, entry, rfl, hf, ha⟩
  exact hf.comp (.loop ha hf hshrinks)

theorem repetition (hf : Orders code f m) (hshrinks : Shrinks m f) (least : Nat)
    (most : Option Nat) (greedy : Bool) (hsteady : most = none → m = false) :
    Orders (Program.repetition code m least most greedy)
      (fun s => (rounds f least s).flatMap fun t =>
        roundsUpTo greedy f (most.elim t.rest.length (· - least)) t) (least == 0 || m) := by
  cases most with
  | some k =>
      have h := (hf.times least).comp (hf.upTo greedy (k - least))
      rw [Bool.and_true] at h
      refine h.of_eq fun next p => ?_
      cases least with
      | zero => rfl
      | succ least => rfl
  | none =>
      obtain rfl := hsteady rfl
      cases least with
      | zero => exact (hf.freeLoop hshrinks greedy).congr (funext fun s => by simp [rounds]) rfl
      | succ least =>
          -- the loop itself is the last of the rounds that are asked for
          refine ((hf.times least).comp (hf.loop hshrinks greedy)).congr (funext fun s => ?_) ?_
          · rw [rounds_succ, List.flatMap_assoc]
            rfl
          · simp

/-- The first group, around its body. -/
theorem group (hf : Orders code f m) :
    Orders (fun next p => (code (p.add (.closing next)).1 (p.add (.closing next)).2).2.add
        (.opening (code (p.add (.closing next)).1 (p.add (.closing next)).2).1))
      (fun s => (f s.begun).map Spot.ended) m := by
  have hopening : Orders (fun next p => p.add (.opening next)) (fun s => [s.begun]) true :=
    of_instruction fun h => .opening h
  have hclosing : Orders (fun next p => p.add (.closing next)) (fun s => [s.ended]) true :=
    of_instruction fun h => .closing h
  refine (hopening.comp (hf.comp hclosing)).congr (funext fun s => ?_) ?_
  · rw [List.flatMap_singleton, List.map_eq_flatMap]
  · rw [Bool.true_and, Bool.and_true]

end Orders

/-- The code of a pattern comes to what the first of its ends comes to. -/
theorem orders (c : Core) (h : c.Steady) : Orders (Program.code c) c.ends c.nullable := by
  induction c with
  | empty => exact .skip
  | set chars => exact .of_instruction fun ha => .take ha
  | look condition => exact .of_instruction fun ha => .check ha
  | seq a b iha ihb => exact (iha h.1).comp (ihb h.2)
  | alt a b iha ihb => exact (iha h.1).alt (ihb h.2)
  | rep least most greedy body ih =>
      exact (ih h.2).repetition body.shrinks_ends least most greedy h.1
  | group index body ih =>
      rw [Core.ends, Core.nullable]
      by_cases hindex : index = 1
      · rw [if_pos hindex]
        exact (ih h).group.of_eq fun next p => if_pos (beq_iff_eq.mpr hindex)
      · rw [if_neg hindex]
        exact (ih h).of_eq fun next p => if_neg fun heq => hindex (beq_iff_eq.mp heq)

/-! ## A whole pattern -/

/-- From a place of a text, a program comes to the first of the pattern's ends. -/
theorem raceAt_ofCore {c : Core} (h : c.Steady) (text : List Char) (i : Nat) :
    raceAt (Program.ofCore c).2 (Program.ofCore c).1 text i
      = (c.ends (Spot.within text i)).head?.map fun t => t.way 0 := by
  have hbuilds := orders c h 0
  have hprefers := hbuilds.right #[.accept] (Program.ofCore c).2 fun _ _ _ => rfl
  have haccept : (Program.ofCore c).2[0]? = some .accept :=
    hbuilds.kept #[.accept] 0 (Nat.zero_lt_succ 0)
  have hground : Grounded (Program.ofCore c).2 0 :=
    grounded_of_exits haccept fun _ _ hb => nomatch hb
  have hrace : raceAt (Program.ofCore c).2 (Program.ofCore c).1 text i
      = outcome (Program.ofCore c).2 (Program.ofCore c).1 (Spot.within text i) := rfl
  rw [hrace]
  refine (hprefers.outcome_eq hground _).trans ?_
  cases c.ends (Spot.within text i) with
  | nil => rfl
  | cons t ends => rw [List.findSome?_cons, outcome_of_accept t haccept]; rfl

/-- A pattern takes what its first group takes in the preferred of the matches that begin first. -/
theorem finds_capture? {source : String} {c : Core} {p : Pattern} (hp : compile source = .ok p)
    (hc : coreOfText source = .ok c) (h : c.Steady) (text : String) :
    c.Finds text (p.capture? text) := by
  obtain ⟨-, rfl⟩ := (compile_of_core hc).mp hp
  rw [capture?, program_ofCore, entry_ofCore, search_eq_scan]
  cases hscan : scan (Program.ofCore c).2 (Program.ofCore c).1 none 0 text.toList with
  | none =>
      refine .nowhere fun i hi => ?_
      have hrace := raceAt_eq_none_of_scan text.toList [] hscan i (Nat.zero_le i) hi
      rw [List.nil_append, raceAt_ofCore h] at hrace
      simpa using hrace
  | some r =>
      obtain ⟨i, hi, hrace, hbefore⟩ := exists_raceAt_of_scan text.toList [] hscan
      rw [List.nil_append, raceAt_ofCore h] at hrace
      obtain ⟨t, ht, rfl⟩ := Option.map_eq_some_iff.mp hrace
      have hfirst := Core.Finds.first hi ht fun j hj => by
        have hnone := hbefore j (Nat.zero_le j) hj
        rw [List.nil_append, raceAt_ofCore h] at hnone
        simpa using hnone
      have htaken : (t.way 0).taken = t.taken := rfl
      cases htake : t.taken with
      | none => simpa [htaken, htake] using hfirst
      | some taken => simpa [htaken, htake] using hfirst

end ReleaseGate.Pattern
