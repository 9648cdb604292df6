import ReleaseGate.Proofs.Codes

/-!
# Automata keep to the limit of memory

An automaton only ever grows, and whatever it grows by is weighed against the limit at once. So a
size that growing comes to is at least the size it began with, and keeps to the limit if that did.
This is shown for every way in which growth is put together, and then for a whole pattern by
induction on it: a pattern that compiles has automata within the limit in both directions, unless it
is a choice of so many words that it needs none.
-/

namespace ReleaseGate.Pattern

open Unicode

/-! ## Growing -/

/-- Nothing is taken away from one size to the other, and the limit is kept if it was kept. -/
structure Size.GrowsTo (s t : Size) : Prop where
  states : s.states ≤ t.states
  besides : s.besides ≤ t.besides
  keeps : s.bytes ≤ memoryLimit → t.bytes ≤ memoryLimit

theorem Size.GrowsTo.refl (s : Size) : s.GrowsTo s :=
  ⟨Nat.le_refl _, Nat.le_refl _, id⟩

theorem Size.GrowsTo.trans {s t u : Size} (h : s.GrowsTo t) (h' : t.GrowsTo u) : s.GrowsTo u :=
  ⟨Nat.le_trans h.states h'.states, Nat.le_trans h.besides h'.besides, h'.keeps ∘ h.keeps⟩

namespace Growth

/-- Whatever a growth comes to, the automaton has grown to it. -/
def Lawful (g : Growth) : Prop :=
  ∀ s t, g s = some t → s.GrowsTo t

variable {g h : Growth}

theorem lawful_some : Lawful some := by
  intro s t ht
  rw [← Option.some.inj ht]
  exact .refl s

theorem lawful_more (states besides : Nat) : Lawful (more states besides) := by
  intro s t ht
  rw [more] at ht
  split at ht
  · cases ht
  · next hlimit =>
      rw [← Option.some.inj ht]
      exact ⟨Nat.le_add_right .., Nat.le_add_right .., fun _ => Nat.le_of_not_lt hlimit⟩

theorem Lawful.andThen (hg : Lawful g) (hh : Lawful h) : Lawful (g.andThen h) := by
  intro s u hu
  obtain ⟨t, ht, hu⟩ := Option.bind_eq_some_iff.mp hu
  exact (hg s t ht).trans (hh t u hu)

theorem Lawful.times (hg : Lawful g) (n : Nat) : Lawful (times g n) := by
  induction n with
  | zero => exact lawful_some
  | succ n ih => exact hg.andThen ih

theorem lawful_foldlM {α : Type} {f : Size → α → Option Size} (xs : List α)
    (hf : ∀ x ∈ xs, Lawful fun s => f s x) : Lawful fun s => xs.foldlM f s := by
  induction xs with
  | nil => exact lawful_some
  | cons x xs ih =>
      have hrest := ih fun y hy => hf y (List.mem_cons_of_mem x hy)
      intro s u hu
      have hu : (x :: xs).foldlM f s = some u := hu
      rw [List.foldlM_cons] at hu
      obtain ⟨t, ht, hu⟩ := Option.bind_eq_some_iff.mp hu
      exact (hf x List.mem_cons_self s t ht).trans (hrest t u hu)

/-! ## Sets of characters -/

/-- Whatever comes out while some states are known, the automaton has grown to it. -/
def LawfulRun {α : Type} (m : StateT (Known × Size) Option α) : Prop :=
  ∀ k s a k' t, m (k, s) = some (a, k', t) → s.GrowsTo t

section

variable {α β : Type}

theorem size_eq {a b : α} {k k' : Known} {s t : Size} (h : some (a, k, s) = some (b, k', t)) :
    s = t :=
  (Prod.mk.inj (Prod.mk.inj (Option.some.inj h)).2).2

theorem lawfulRun_pure (a : α) : LawfulRun (pure a) := by
  intro k s b k' t ht
  rw [← size_eq ht]
  exact .refl s

theorem LawfulRun.bind {m : StateT (Known × Size) Option α}
    {f : α → StateT (Known × Size) Option β} (hm : LawfulRun m) (hf : ∀ a, LawfulRun (f a)) :
    LawfulRun (m >>= f) := by
  intro k s b k' u hu
  obtain ⟨⟨a, k'', t⟩, ht, hu⟩ := Option.bind_eq_some_iff.mp hu
  exact (hm k s a k'' t ht).trans (hf a k'' t b k' u hu)

theorem lawfulRun_foldlM {f : β → α → StateT (Known × Size) Option β}
    (hf : ∀ b a, LawfulRun (f b a)) (xs : List α) (b : β) : LawfulRun (xs.foldlM f b) := by
  induction xs generalizing b with
  | nil => exact lawfulRun_pure b
  | cons x xs ih =>
      rw [List.foldlM_cons]
      exact (hf b x).bind ih

theorem lawfulRun_forM {f : α → StateT (Known × Size) Option Unit} (hf : ∀ a, LawfulRun (f a))
    (xs : List α) : LawfulRun (xs.forM f) := by
  induction xs with
  | nil => exact lawfulRun_pure ()
  | cons x xs ih => exact (hf x).bind fun _ => ih

end

theorem lawfulRun_stateFor (slots besides : Nat) (key : List Nat) :
    LawfulRun (stateFor slots besides key) := by
  have hbuild (slot : Nat) {k s a k' t}
      (ht : stateFor.build besides key slot k s = some (a, k', t)) : s.GrowsTo t := by
    obtain ⟨grown, hgrown, ht⟩ := Option.bind_eq_some_iff.mp ht
    rw [← size_eq ht]
    exact lawful_more 1 besides s grown hgrown
  intro k s a k' t ht
  rw [stateFor] at ht
  split at ht
  · split at ht
    · rw [← size_eq ht]
      exact .refl s
    · exact hbuild _ ht
  · exact hbuild _ ht

theorem lawfulRun_close (target : Nat) (nodes : List Node) : LawfulRun (close target nodes) := by
  induction nodes with
  | nil => exact lawfulRun_pure target
  | cons node nodes ih => exact ih.bind fun next => lawfulRun_stateFor _ _ _

theorem lawfulRun_follow (target : Nat) (nodes : List Node) (row : List Octets) :
    LawfulRun (follow target nodes row) := by
  induction nodes generalizing row with
  | nil => exact lawfulRun_pure _
  | cons node nodes ih =>
      cases row with
      | nil => exact lawfulRun_pure _
      | cons range row =>
          rw [follow]
          split
          · exact (ih row).bind fun nodes => lawfulRun_pure _
          · exact (lawfulRun_close target nodes).bind fun next => lawfulRun_pure _

/-- A growth that begins by growing and then runs with no state known. -/
theorem LawfulRun.lawful {α : Type} {m : Size → StateT (Known × Size) Option α} (hg : Lawful g)
    (hm : ∀ s, LawfulRun (m s)) :
    Lawful fun s => do
      let (_, _, t) ← m s ([], ← g s)
      return t := by
  intro s u hu
  obtain ⟨t, ht, hu⟩ := Option.bind_eq_some_iff.mp hu
  obtain ⟨⟨a, k, u'⟩, hrun, hu⟩ := Option.bind_eq_some_iff.mp hu
  rw [← Option.some.inj hu]
  exact (hg s t ht).trans (hm s [] t a k u' hrun)

theorem lawful_ofSetForwards (set : CharSet) : Lawful (ofSetForwards set) := by
  refine LawfulRun.lawful (lawful_more 1 0) fun s => ?_
  exact (lawfulRun_foldlM (lawfulRun_follow s.states) _ _).bind (lawfulRun_close s.states)

theorem lawful_ofSetBackwards (set : CharSet) : Lawful (ofSetBackwards set) := by
  refine LawfulRun.lawful (lawful_more 2 0) fun s => lawfulRun_forM (fun ranges => ?_) _
  refine (lawfulRun_foldlM (fun next range => lawfulRun_stateFor _ _ _) ranges _).bind fun _ => ?_
  intro k s _ k' u hu
  obtain ⟨t, ht, hu⟩ := Option.bind_eq_some_iff.mp hu
  rw [← size_eq hu]
  exact lawful_more 0 4 s t ht

theorem lawful_ofSet (d : Direction) (set : CharSet) : Lawful (ofSet d set) := by
  rw [ofSet.eq_def]
  split
  · exact lawful_more _ _
  · split
    · exact lawful_more _ _
    · cases d with
      | forward => exact lawful_ofSetForwards set
      | backward => exact lawful_ofSetBackwards set

/-! ## Words, choices and repetitions -/

theorem Place.lawful_growth (p : Place) : Lawful p.growth := by
  rw [Place.growth]
  split
  · exact lawful_some
  · exact lawful_more _ _

theorem lawful_ofWords (d : Direction) (words : List (List Nat)) : Lawful (ofWords d words) :=
  (lawful_more 1 0).andThen (lawful_foldlM _ fun place _ => place.lawful_growth)

theorem lawful_ofBranches (gs : List Growth) (hgs : ∀ g ∈ gs, Lawful g) :
    Lawful (ofBranches gs) := by
  match gs with
  | [] => exact lawful_more _ _
  | [g] => exact hgs g List.mem_cons_self
  | first :: second :: rest =>
      obtain ⟨hfirst, hgs⟩ := List.forall_mem_cons.mp hgs
      obtain ⟨hsecond, hrest⟩ := List.forall_mem_cons.mp hgs
      have hfold := lawful_foldlM rest fun g hg => (hrest g hg).andThen (lawful_more 0 4)
      exact hfirst.andThen (hsecond.andThen ((lawful_more 2 8).andThen hfold))

theorem lawful_repetition (hg : Lawful g) (shortest : Option Nat) (least : Nat)
    (most : Option Nat) : Lawful (repetition g shortest least most) := by
  have hstate : Lawful state := lawful_more _ _
  have hfork : Lawful fork := lawful_more _ _
  rw [repetition.eq_def]
  split
  · split
    · exact hfork.andThen hg
    · exact hg.andThen (lawful_more _ _)
  · exact (hg.times _).andThen hfork
  · exact (hfork.andThen hg).andThen hstate
  · next most _ =>
      have hneeded : Lawful (if least == 0 then state else times g least) := by
        split
        · exact hstate
        · exact hg.times least
      dsimp only
      split
      · exact hneeded
      · exact (hneeded.andThen hstate).andThen ((hfork.andThen hg).times _)

end Growth

/-! ## Patterns -/

namespace Core

theorem lawful_growthOf (d : Direction) (c : Core) {branches : List Growth}
    (h : ∀ g ∈ branches, g.Lawful) : (growthOf d c branches).Lawful := by
  rw [growthOf]
  split
  · exact Growth.lawful_ofWords _ _
  · exact Growth.lawful_ofBranches branches h

theorem lawful_growths (d : Direction) (c : Core) : ∀ g ∈ growths d c, g.Lawful := by
  induction c with
  | empty => exact List.forall_mem_singleton.mpr (Growth.lawful_more _ _)
  | look condition => exact List.forall_mem_singleton.mpr (Growth.lawful_more _ _)
  | set s => exact List.forall_mem_singleton.mpr (Growth.lawful_ofSet d s)
  | seq a b iha ihb =>
      have ha := lawful_growthOf d a iha
      have hb := lawful_growthOf d b ihb
      cases d with
      | forward => exact List.forall_mem_singleton.mpr (ha.andThen hb)
      | backward => exact List.forall_mem_singleton.mpr (hb.andThen ha)
  | alt a b iha ihb =>
      intro g hg
      exact (List.mem_append.mp hg).elim (iha g) (ihb g)
  | rep least most greedy body ih =>
      have hbody := lawful_growthOf d body ih
      exact List.forall_mem_singleton.mpr (Growth.lawful_repetition hbody _ _ _)
  | group index body ih =>
      have hbody := lawful_growthOf d body ih
      cases d with
      | forward =>
          exact List.forall_mem_singleton.mpr
            (((Growth.lawful_more 1 0).andThen hbody).andThen (Growth.lawful_more 1 0))
      | backward => exact List.forall_mem_singleton.mpr hbody

/-- The automata of a pattern keep to the limit. -/
theorem bytes_le_of_size? {d : Direction} {c : Core} {s : Size} (h : c.size? d = some s) :
    s.bytes ≤ memoryLimit := by
  have hfront : (if c.isAnchored d then .state else .more 3 16 : Growth).Lawful := by
    split
    · exact Growth.lawful_more _ _
    · exact Growth.lawful_more _ _
  have hwhole := hfront.andThen
    ((Growth.lawful_foldlM _ (lawful_growths d (.group 0 c))).andThen (Growth.lawful_more 1 0))
  exact (hwhole .zero s h).keeps (Nat.zero_le _)

end Core

/-- A pattern that compiles has automata within the limit in both directions, unless it is a choice
of so many words that it needs none. -/
theorem within_limit_of_compile {source : String} {p : Pattern} (h : compile source = .ok p) :
    ∃ c, Tree.read source >>= Core.ofTree .merging = .ok c
      ∧ ((∀ d, ∃ s, c.size? d = some s ∧ s.bytes ≤ memoryLimit)
        ∨ Core.manyWords ≤ c.options.length ∧ ∀ option ∈ c.options, option.word?.isSome) := by
  obtain ⟨plain, hplain, -⟩ := exists_core_of_compile h
  have hfits := ((compile_of_core hplain).mp h).1
  rw [fits] at hfits
  split at hfits
  · next c hc =>
      refine ⟨c, hc, ?_⟩
      rw [Core.fits, Bool.or_eq_true, Bool.and_eq_true, Bool.and_eq_true] at hfits
      rcases hfits with ⟨hforward, hbackward⟩ | ⟨hmany, hwords⟩
      · refine .inl fun d => ?_
        have hsome : (c.size? d).isSome = true := by
          cases d with
          | forward => exact hforward
          | backward => exact hbackward
        obtain ⟨s, hs⟩ := Option.isSome_iff_exists.mp hsome
        exact ⟨s, hs, Core.bytes_le_of_size? hs⟩
      · exact .inr ⟨of_decide_eq_true hmany, List.all_eq_true.mp hwords⟩
  · cases hfits

end ReleaseGate.Pattern
