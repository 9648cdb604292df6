import Mathlib.Data.List.Forall2
import ReleaseGate.Yaml.Document

/-!
# Walks — the events that tokens tell

A node is told by the tokens that it begins with, whatever comes behind it, as long as that does not
go on with the node: an entry behind a list that is not indented would. From the nodes of its members
a mapping is told, and from those of its entries a list.
-/

namespace ReleaseGate.Yaml

namespace Tokens

/-- The tokens begin with tokens of the given kinds, and the rest follows them. -/
def Begins : List Token → Tokens → Tokens → Prop
  | [], ts, rest => ts = rest
  | t :: kinds, ts, rest => ∃ m more, ts = .cons t m more ∧ Begins kinds more rest

variable {kinds more : List Token} {ts rest : Tokens}

theorem begins_append : Begins (kinds ++ more) ts rest
    ↔ ∃ between, Begins kinds ts between ∧ Begins more between rest := by
  induction kinds generalizing ts with
  | nil => exact ⟨fun h => ⟨ts, rfl, h⟩, fun ⟨between, h, hmore⟩ => h ▸ hmore⟩
  | cons t kinds ih =>
      constructor
      · rintro ⟨m, ts', hts, h⟩
        obtain ⟨between, hkinds, hmore⟩ := ih.mp h
        exact ⟨between, ⟨m, ts', hts, hkinds⟩, hmore⟩
      · rintro ⟨between, ⟨m, ts', hts, hkinds⟩, hmore⟩
        exact ⟨m, ts', hts, ih.mpr ⟨between, hkinds, hmore⟩⟩

theorem begins_behind (tokens : List (Token × Mark)) :
    ∀ rest : Tokens, Begins (tokens.map Prod.fst).reverse (behind tokens rest) rest := by
  induction tokens with
  | nil => exact fun _ => rfl
  | cons t tokens ih =>
      intro rest
      rw [List.map_cons, List.reverse_cons]
      exact begins_append.mpr ⟨_, ih (.cons t.1 t.2 rest), t.2, rest, rfl, rfl⟩

theorem count_of_begins (h : Begins kinds ts rest) : ts.count = kinds.length + rest.count := by
  induction kinds generalizing ts with
  | nil => rw [show ts = rest from h, List.length_nil, Nat.zero_add]
  | cons t kinds ih =>
      obtain ⟨m, more, rfl, hkinds⟩ := h
      rw [count, ih hkinds, List.length_cons]
      omega

end Tokens

/-! ## Walks over expectations -/

/-- The occurrence is told as an event without anchor or reference. -/
def Occurrence.Shows (o : Occurrence) (e : Event Nat) : Prop :=
  o.anchor = none ∧ ∀ anchors, Document.resolve anchors o = .ok e

/-- Between two stacks of expectations the tokens tell these occurrences. -/
inductive Walk (handles : Handles) : List Expectation → Tokens → List Occurrence →
    List Expectation → Tokens → Prop where
  | nil (expected : List Expectation) (ts : Tokens) : Walk handles expected ts [] expected ts
  | cons {e : Expectation} {below expected' : List Expectation} {ts ts' : Tokens} {s : Step}
      {os : List Occurrence} : Step.next handles e below ts = .ok s →
      Walk handles s.expected s.rest os expected' ts' →
      Walk handles (e :: below) ts (s.occurrence :: os) expected' ts'

namespace Walk

variable {handles : Handles} {expected expected' expected'' : List Expectation}
  {ts ts' ts'' : Tokens} {os os' : List Occurrence}

theorem append (h : Walk handles expected ts os expected' ts')
    (h' : Walk handles expected' ts' os' expected'' ts'') :
    Walk handles expected ts (os ++ os') expected'' ts'' := by
  induction h with
  | nil => exact h'
  | cons hstep _ ih => exact .cons hstep (ih h')

/-- A walk is read in as many steps as it has occurrences. -/
theorem readFrom (h : Walk handles expected ts os expected' ts') (fuel : Nat) :
    Outline.readFrom handles (os.length + fuel) expected ts
      = { Outline.readFrom handles fuel expected' ts' with
          occurrences := os ++ (Outline.readFrom handles fuel expected' ts').occurrences } := by
  induction h with
  | nil => rw [List.length_nil, Nat.zero_add, List.nil_append]
  | cons hstep _ ih =>
      rw [List.length_cons, Nat.add_right_comm, Outline.readFrom, hstep]
      dsimp only
      rw [ih]
      rfl

end Walk

/-! ## Nodes -/

theorem length_flatMap_le {α β γ : Type} {f : α → List β} {g : α → List γ} {n : Nat} {l : List α}
    (h : ∀ a ∈ l, (f a).length ≤ n * (g a).length) :
    (l.flatMap f).length ≤ n * (l.flatMap g).length := by
  induction l with
  | nil => exact Nat.zero_le _
  | cons a l ih =>
      obtain ⟨ha, hl⟩ := List.forall_mem_cons.mp h
      have hrest := ih hl
      rw [List.flatMap_cons, List.flatMap_cons, List.length_append, List.length_append, Nat.mul_add]
      omega

/-- Does the token leave the node before it empty, where a node is expected in this position? -/
def Token.leavesEmpty (around : Around) (t : Token) : Bool :=
  match around with
  | .block => t.endsFlushEntry
  | _ => t.endsMember

/-- Tokens of these kinds tell a node as these events. -/
structure Tells (handles : Handles) (around : Around) (kinds : List Token)
    (events : List (Event Nat)) : Prop where
  /-- They show that the node is not missing. -/
  begins : ∃ t more, kinds = t :: more ∧ t.leavesEmpty around = false
  /-- They are enough to pay for the events. -/
  short : events.length ≤ 2 * kinds.length
  told : ∀ {ts rest : Tokens}, ts.Begins kinds rest →
    (around = .member → rest.next (· == .entry) = .ok false) → ∀ below : List Expectation,
    ∃ s os, Step.node handles around below ts = .ok s
      ∧ Walk handles s.expected s.rest os below rest
      ∧ List.Forall₂ Occurrence.Shows (s.occurrence :: os) events

namespace Tells

variable {handles : Handles} {around : Around}

/-- A scalar is a node by itself. -/
theorem scalar (around : Around) (text : List Char) (plain : Bool) :
    Tells handles around [.scalar text plain] [.scalar none text plain] where
  begins := ⟨_, [], rfl, by cases around <;> rfl⟩
  short := Nat.le_succ 1
  told := by
    rintro ts rest ⟨m, more, rfl, rfl⟩ - below
    refine ⟨⟨⟨.scalar none text plain, m, none⟩, below, more⟩, [], ?_, .nil below more, ?_⟩
    · cases around <;> rfl
    · exact .cons ⟨rfl, fun _ => rfl⟩ .nil

/-- A list without entries in brackets. -/
theorem emptyList (around : Around) : Tells handles around [.flowSequence, .flowSequenceEnd]
    [.sequence none, .sequenceEnd] where
  begins := ⟨_, _, rfl, by cases around <;> rfl⟩
  short := by decide
  told := by
    rintro ts rest ⟨m, more, rfl, m', more', rfl, rfl⟩ - below
    refine ⟨⟨⟨.sequence none, m, none⟩, .flowEntry m true :: below, .cons .flowSequenceEnd m' more'⟩,
      _, ?_, .cons rfl (.nil below more'), ?_⟩
    · cases around <;> rfl
    · exact .cons ⟨rfl, fun _ => rfl⟩ (.cons ⟨rfl, fun _ => rfl⟩ .nil)

/-- A node that is not missing is read where it may be. -/
theorem optionalNode {kinds : List Token} {events : List (Event Nat)} {ts rest : Tokens}
    {isMissing : Token → Bool} (h : Tells handles around kinds events) (hts : ts.Begins kinds rest)
    (hmissing : ∀ t, t.leavesEmpty around = false → isMissing t = false) (m : Mark)
    (expected : List Expectation) :
    Step.optionalNode handles around isMissing m expected ts
      = Step.node handles around expected ts := by
  obtain ⟨t, more, rfl, ht⟩ := h.begins
  obtain ⟨m', more', rfl, -⟩ := hts
  rw [Step.optionalNode]
  show (if isMissing t = true then _ else _) = _
  rw [hmissing t ht, if_neg Bool.false_ne_true]

end Tells

/-! ## Mappings -/

/-- A member of a mapping: its name, and its value as tokens and as events. -/
structure Told where
  name : List Char
  kinds : List Token
  events : List (Event Nat)

namespace Told

/-- The tokens of the member. -/
def allKinds (t : Told) : List Token :=
  .key :: .scalar t.name true :: .value :: t.kinds

/-- The events of the member. -/
def allEvents (t : Told) : List (Event Nat) :=
  .scalar none t.name true :: t.events

end Told

section

variable {handles : Handles} {around : Around}

/-- A member is told by its name and its value. -/
theorem walk_member {t : Told} {ts rest : Tokens} (h : Tells handles .member t.kinds t.events)
    (hts : ts.Begins t.allKinds rest) (hrest : rest.next (· == .entry) = .ok false) (start : Mark)
    (below : List Expectation) :
    ∃ os, Walk handles (.blockKey start :: below) ts os (.blockKey start :: below) rest
      ∧ List.Forall₂ Occurrence.Shows os t.allEvents := by
  obtain ⟨m, _, rfl, m', _, rfl, m'', value, rfl, hvalue⟩ := hts
  obtain ⟨s, os, hnode, hwalk, hshows⟩ := h.told hvalue (fun _ => hrest) (.blockKey start :: below)
  have hnext : Step.next handles (.blockValue start) below (.cons .value m'' value) = .ok s := by
    rw [← hnode, ← h.optionalNode hvalue (fun _ ht => ht) m''.right]
    rfl
  exact ⟨_, .cons rfl (.cons hnext hwalk), .cons ⟨rfl, fun _ => rfl⟩ hshows⟩

/-- A mapping is told by its members. -/
theorem walk_members {members : List Told} (h : ∀ t ∈ members, Tells handles .member t.kinds t.events)
    (start : Mark) (below : List Expectation) :
    ∀ {ts rest : Tokens}, ts.Begins (members.flatMap Told.allKinds ++ [.blockEnd]) rest →
      ∃ os, Walk handles (.blockKey start :: below) ts os below rest
        ∧ List.Forall₂ Occurrence.Shows os (members.flatMap Told.allEvents ++ [.mappingEnd]) := by
  induction members with
  | nil =>
      rintro ts rest ⟨m, more, rfl, rfl⟩
      exact ⟨_, .cons rfl (.nil below more), .cons ⟨rfl, fun _ => rfl⟩ .nil⟩
  | cons t members ih =>
      intro ts rest hts
      obtain ⟨ht, hmembers⟩ := List.forall_mem_cons.mp h
      rw [List.flatMap_cons, List.append_assoc] at hts
      obtain ⟨between, hmember, hbetween⟩ := Tokens.begins_append.mp hts
      -- What comes next is another key or the end of the mapping, so the value does not go on.
      have hrest : between.next (· == .entry) = .ok false := by
        cases members with
        | nil =>
            obtain ⟨m, more, rfl, -⟩ := hbetween
            rfl
        | cons t' members =>
            obtain ⟨m, more, rfl, -⟩ := hbetween
            rfl
      obtain ⟨os, hwalk, hshows⟩ := walk_member ht hmember hrest start below
      obtain ⟨os', hwalk', hshows'⟩ := ih hmembers hbetween
      refine ⟨os ++ os', hwalk.append hwalk', ?_⟩
      rw [List.flatMap_cons, List.append_assoc]
      exact List.rel_append hshows hshows'

/-- A mapping of members that are told is told. -/
theorem Tells.mapping {members : List Told} (haround : around ≠ .flow)
    (h : ∀ t ∈ members, Tells handles .member t.kinds t.events) :
    Tells handles around (.blockMapping :: (members.flatMap Told.allKinds ++ [.blockEnd]))
      (.mapping none :: (members.flatMap Told.allEvents ++ [.mappingEnd])) where
  begins := ⟨_, _, rfl, by cases around <;> rfl⟩
  short := by
    have hmembers : (members.flatMap Told.allEvents).length
        ≤ 2 * (members.flatMap Told.allKinds).length := length_flatMap_le fun t ht => by
      have hvalue := (h t ht).short
      show t.events.length + 1 ≤ 2 * (t.kinds.length + 3)
      omega
    simp only [List.length_cons, List.length_append, List.length_nil]
    omega
  told := by
    rintro ts rest ⟨m, more, rfl, hmembers⟩ - below
    obtain ⟨os, hwalk, hshows⟩ := walk_members h m below hmembers
    refine ⟨⟨⟨.mapping none, m, none⟩, .blockKey m :: below, more⟩, os, ?_, hwalk, ?_⟩
    · cases around with
      | block => rfl
      | member => rfl
      | flow => exact absurd rfl haround
    · exact .cons ⟨rfl, fun _ => rfl⟩ hshows

/-! ## Lists that are not indented -/

variable {α : Type} {kindsOf : α → List Token} {eventsOf : α → List (Event Nat)}

/-- Where no further entry comes the list ends. -/
theorem next_flushEntry {rest : Tokens} (hrest : rest.next (· == .entry) = .ok false)
    (below : List Expectation) : Step.next handles .flushEntry below rest
      = .ok (Step.plain .sequenceEnd rest.mark below rest) := by
  cases rest with
  | cons t m rest =>
      cases t with
      | entry => exact nomatch hrest
      | _ => rfl
  | finished m => rfl
  | broken f => exact nomatch hrest

/-- A list is told by its entries. -/
theorem walk_entries {entries : List α}
    (h : ∀ a ∈ entries, Tells handles .block (kindsOf a) (eventsOf a)) (below : List Expectation) :
    ∀ {ts rest : Tokens}, ts.Begins (entries.flatMap fun a => .entry :: kindsOf a) rest →
      rest.next (· == .entry) = .ok false →
      ∃ os, Walk handles (.flushEntry :: below) ts os below rest
        ∧ List.Forall₂ Occurrence.Shows os (entries.flatMap eventsOf ++ [.sequenceEnd]) := by
  induction entries with
  | nil =>
      rintro ts rest rfl hrest
      exact ⟨_, .cons (next_flushEntry hrest below) (.nil below ts),
        .cons ⟨rfl, fun _ => rfl⟩ .nil⟩
  | cons a entries ih =>
      intro ts rest hts hrest
      obtain ⟨ha, hentries⟩ := List.forall_mem_cons.mp h
      rw [List.flatMap_cons] at hts
      obtain ⟨between, ⟨m, node, rfl, hnode⟩, hbetween⟩ := Tokens.begins_append.mp hts
      obtain ⟨s, os, hread, hwalk, hshows⟩ := ha.told hnode nofun (.flushEntry :: below)
      obtain ⟨os', hwalk', hshows'⟩ := ih hentries hbetween hrest
      have hnext : Step.next handles .flushEntry below (.cons .entry m node) = .ok s := by
        rw [← hread, ← ha.optionalNode hnode (fun _ ht => ht) m.right]
        rfl
      refine ⟨_, .cons hnext (hwalk.append hwalk'), ?_⟩
      rw [List.flatMap_cons, List.append_assoc]
      exact List.rel_append hshows hshows'

/-- A list of nodes that are told is told as the value of a member, when it has an entry at all. -/
theorem Tells.list {entries : List α} (hne : entries ≠ [])
    (h : ∀ a ∈ entries, Tells handles .block (kindsOf a) (eventsOf a)) :
    Tells handles .member (entries.flatMap fun a => .entry :: kindsOf a)
      (.sequence none :: (entries.flatMap eventsOf ++ [.sequenceEnd])) where
  begins := by
    obtain ⟨a, entries, rfl⟩ := List.exists_cons_of_ne_nil hne
    exact ⟨_, _, rfl, rfl⟩
  short := by
    obtain ⟨a, entries, rfl⟩ := List.exists_cons_of_ne_nil hne
    obtain ⟨ha, hentries⟩ := List.forall_mem_cons.mp h
    have hfirst := ha.short
    have hrest : (entries.flatMap eventsOf).length
        ≤ 2 * (entries.flatMap fun a => .entry :: kindsOf a).length :=
      length_flatMap_le fun a ha => by
        have hentry := (hentries a ha).short
        rw [List.length_cons]
        omega
    simp only [List.flatMap_cons, List.length_append, List.length_cons, List.length_nil]
    omega
  told := by
    intro ts rest hts hrest below
    obtain ⟨os, hwalk, hshows⟩ := walk_entries h below hts (hrest rfl)
    obtain ⟨a, entries, rfl⟩ := List.exists_cons_of_ne_nil hne
    obtain ⟨m, more, rfl, -⟩ := hts
    exact ⟨⟨⟨.sequence none, m, none⟩, .flushEntry :: below, .cons .entry m more⟩, os, rfl, hwalk,
      .cons ⟨rfl, fun _ => rfl⟩ hshows⟩

end

/-! ## Documents -/

/-- Occurrences without anchors and references are a document's events. -/
theorem Document.load_shows {os : List Occurrence} {events : List (Event Nat)}
    (h : List.Forall₂ Occurrence.Shows os events) (anchors : Anchors) :
    ∀ position : Nat, ∃ marked, load anchors position os = ⟨marked, [], none, false⟩
      ∧ marked.map Prod.fst = events := by
  induction h with
  | nil => exact fun _ => ⟨[], rfl, rfl⟩
  | @cons o e os events ho _ ih =>
      intro position
      obtain ⟨marked, hload, hmarked⟩ := ih (position + 1)
      refine ⟨(e, o.mark) :: marked, ?_, congrArg (e :: ·) hmarked⟩
      rw [load, ho.2 anchors]
      dsimp only
      rw [ho.1]
      dsimp only
      rw [hload]

theorem Outline.readFrom_nil (handles : Handles) (fuel : Nat) (ts : Tokens) :
    Outline.readFrom handles fuel [] ts = ⟨[], .ok ts⟩ := by
  cases fuel <;> rfl

/-- A text whose tokens tell one mapping is a document of its events, and of nothing more. -/
theorem Tells.ofText {kinds : List Token} {events : List (Event Nat)} {text : List Char} {m : Mark}
    (h : Tells standardHandles .block (.blockMapping :: kinds) events)
    (htext : (Tokens.ofText text).Begins (.blockMapping :: kinds) (.finished m)) :
    ∃ marked, Document.ofText text = ⟨marked, [], none, false⟩ ∧ marked.map Prod.fst = events := by
  obtain ⟨s, os, hnode, hwalk, hshows⟩ := h.told htext nofun []
  have hcount := Tokens.count_of_begins htext
  obtain ⟨m', more, hts, -⟩ := htext
  have hroot : Walk standardHandles [.root] (Tokens.ofText text) (s.occurrence :: os) []
      (.finished m) := by
    refine .cons ?_ hwalk
    rw [← hnode, hts]
    rfl
  -- There are no more events than twice the tokens, so reading does not stop before the end.
  obtain ⟨fuel, hfuel⟩ : ∃ fuel, Outline.mostEvents (Tokens.ofText text)
      = (s.occurrence :: os).length + fuel := by
    have hshort := h.short
    have hlength := hshows.length_eq
    refine Nat.exists_eq_add_of_le ?_
    rw [Outline.mostEvents, hcount, hlength]
    omega
  have hfirst : Outline.first? (Tokens.ofText text)
      = some ⟨s.occurrence :: os, .ok (.finished m)⟩ := by
    have hread := hroot.readFrom fuel
    rw [Outline.readFrom_nil, ← hfuel, List.append_nil] at hread
    rw [← hread, hts]
    rfl
  obtain ⟨marked, hload, hmarked⟩ := Document.load_shows hshows [] 0
  refine ⟨marked, ?_, hmarked⟩
  rw [Document.ofText, hfirst]
  dsimp only [Document.ofOutline]
  rw [hload]
  rfl

end ReleaseGate.Yaml
