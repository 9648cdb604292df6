import ReleaseGate.Pattern.Merging
import ReleaseGate.Pattern.Octets

/-!
# Size — the memory that the automata of a pattern take

Two automata are built from a pattern, one that reads a text forwards and one that reads it
backwards, and neither may take more memory than there is a limit for. Every state takes the same,
and more is taken for ranges of bytes to go on at and for ways on to choose from. The parts of a
pattern are built one after the other, those of a sequence in the order in which they are read; how
much the part of a set takes depends on the numbers of its states, by which equal states are told.

Nothing is built here: a part only says how it makes the automaton grow, and growing ends at the
limit.
-/

namespace ReleaseGate.Pattern

open Unicode

/-- The most memory that an automaton of a pattern may take, in bytes. -/
def memoryLimit : Nat := 10 * Nat.pow 2 20

/-- The direction in which an automaton reads a text. -/
inductive Direction where
  | forward | backward
  deriving Repr, DecidableEq

/-- The size of an automaton. -/
structure Size where
  /-- The number of states, which is the number of the next one. -/
  states : Nat
  /-- The number of bytes that states take besides those that each of them takes. -/
  besides : Nat
  deriving Repr, DecidableEq

/-- How an automaton grows, unless it would take too much memory. -/
abbrev Growth := Size → Option Size

namespace Size

/-- The size of nothing. -/
def zero : Size := ⟨0, 0⟩

/-- The memory that an automaton takes, in bytes. -/
def bytes (s : Size) : Nat :=
  32 * s.states + s.besides

end Size

namespace Growth

/-- Grow by some states, with so many bytes besides. -/
def more (states besides : Nat) : Growth := fun s =>
  let grown : Size := ⟨s.states + states, s.besides + besides⟩
  if memoryLimit < grown.bytes then none else some grown

/-- Grow by one state. -/
def state : Growth := more 1 0

/-- Grow by a state that goes on in two ways. -/
def fork : Growth := more 1 8

/-- Grow by one thing and then by another. -/
def andThen (a b : Growth) : Growth := fun s => do
  b (← a s)

/-- Grow several times. -/
def times (g : Growth) : Nat → Growth
  | 0 => some
  | n + 1 => fun s => do times g n (← g s)

/-! ## Sets of characters -/

/-- States that are known, newest first: the slot, the key and the number of each. -/
abbrev Known := List (Nat × List Nat × Nat)

/-- A number for a key. -/
def hash (key : List Nat) : Nat :=
  key.foldl (fun h n => (Nat.xor h n * 1099511628211) % Nat.pow 2 64) 14695981039346656037

/-- The number of the state for a key, and the known states with it. Of the states with one slot
only the newest is known. -/
def stateFor (slots besides : Nat) (key : List Nat) :
    StateT (Known × Size) Option Nat := fun (known, s) =>
  let slot := hash key % slots
  match known.find? fun entry => entry.1 == slot with
  | some (_, key', number) =>
    if key' == key then some (number, known, s) else build slot known s
  | none => build slot known s
where
  build (slot : Nat) (known : Known) (s : Size) : Option (Nat × Known × Size) := do
    let grown ← more 1 besides s
    return (s.states, (slot, key, s.states) :: known, grown)

/-- A node on the way through a row: where its earlier ranges lead, as a range and a state each, and
the range that the row takes. -/
structure Node where
  earlier : List Nat
  last : Option Octets

/-- Where the ranges of a node lead, its last one to the state `next`. -/
def Node.key (node : Node) (next : Nat) : List Nat :=
  match node.last with
  | some (lo, hi) => node.earlier ++ [lo, hi, next]
  | none => node.earlier

/-- The state for the first of some nodes, each on the way behind the one before it. -/
def close (target : Nat) : List Node → StateT (Known × Size) Option Nat
  | [] => return target
  | node :: nodes => do
    let key := node.key (← close target nodes)
    stateFor 10000 (8 * (key.length / 3)) key

/-- The nodes on the way through the next row. Those that it shares with the row before stay. -/
def follow (target : Nat) : List Node → List Octets → StateT (Known × Size) Option (List Node)
  | node :: nodes, range :: row => do
    if node.last == some range then return node :: (← follow target nodes row)
    else
      let key := node.key (← close target nodes)
      return ⟨key, some range⟩ :: row.map fun range => ⟨[], some range⟩
  | _, row => return row.map fun range => ⟨[], some range⟩

/-- Grow by a set that is read forwards: rows that end alike share the states of their ends. -/
def ofSetForwards (set : CharSet) : Growth := fun s => do
  let target := s.states
  let build : StateT (Known × Size) Option Nat := do
    close target (← (Octets.ofSet set).foldlM (follow target) [⟨[], none⟩])
  let (_, _, s) ← build ([], ← state s)
  return s

/-- Grow by a set that is read backwards: rows that begin alike share the states of their
beginnings. -/
def ofSetBackwards (set : CharSet) : Growth := fun s => do
  let target := s.states + 1
  let row (ranges : List Octets) : StateT (Known × Size) Option Unit := do
    let _ ← ranges.foldlM (fun next range => stateFor 1000 0 [next, range.1, range.2]) target
    fun (known, s) => do return ((), known, ← more 0 4 s)
  let (_, _, s) ← (Octets.ofSet set).forM row ([], ← more 2 0 s)
  return s

/-- Grow by a set. Within ASCII one state holds all ranges, and one character is a row of states. -/
def ofSet (d : Direction) (set : CharSet) : Growth :=
  match (Core.set set).single? with
  | some n => more (Octets.encoded n).length 0
  | none =>
    if set.isAscii then more 2 (8 * set.ranges.length)
    else match d with
      | .forward => ofSetForwards set
      | .backward => ofSetBackwards set

/-! ## Words -/

/-- A place in the tree of some words: the places behind it by their bytes. A word that ends here
closes what is open. -/
structure Place where
  closed : List (List (Nat × Nat))
  opened : List (Nat × Nat)
  deriving Inhabited

namespace Place

/-- A place that nothing is behind. -/
def blank : Place := ⟨[], []⟩

/-- Is there nothing behind a place? -/
def isLeaf (p : Place) : Bool :=
  p.opened.isEmpty && p.closed.all List.isEmpty

/-- A place with a word that ends there. -/
def ending (p : Place) : Place :=
  if p.isLeaf && !p.closed.isEmpty then p else ⟨p.closed ++ [p.opened], []⟩

/-- Grow by the states for what is behind a place. -/
def growth (p : Place) : Growth :=
  if p.isLeaf then some
  else
    let parts := (p.closed ++ [p.opened]).filter fun part => !part.isEmpty
    let ranges := (parts.filter fun part => 2 ≤ part.length).foldl (fun n part => n + part.length) 0
    more (parts.length + 1) (8 * ranges + 4 * (parts.length + p.closed.length))

end Place

/-- The places with a word, from the place `at` on. -/
def addWord (places : Array Place) (place : Nat) : List Nat → Array Place
  | [] => places.modify place Place.ending
  | byte :: bytes =>
    match (places.getD place Place.blank).opened.lookup byte with
    | some next => addWord places next bytes
    | none =>
      let next := places.size
      let places := places.modify place fun p => { p with opened := (byte, next) :: p.opened }
      addWord (places.push Place.blank) next bytes

/-- Grow by a choice of words: words that begin alike share states. -/
def ofWords (d : Direction) (words : List (List Nat)) : Growth := fun s => do
  let bytes (word : List Nat) : List Nat :=
    let bytes := word.flatMap Octets.encoded
    match d with
    | .forward => bytes
    | .backward => bytes.reverse
  let places := words.foldl (fun places word => addWord places 0 (bytes word)) #[Place.blank]
  places.toList.foldlM (fun s place => place.growth s) (← state s)

/-! ## Patterns -/

/-- Grow by the parts of a choice. -/
def ofBranches : List Growth → Growth
  | [] => more 2 0
  | [g] => g
  | first :: second :: rest => fun s => do
    let s ← second (← first s)
    rest.foldlM (fun s g => do more 0 4 (← g s)) (← more 2 8 s)

/-- Grow by a repetition of what takes at least `shortest` characters. -/
def repetition (g : Growth) (shortest : Option Nat) (least : Nat) (most : Option Nat) : Growth :=
  match least, most with
  | 0, none =>
    if shortest.any (0 < ·) then fork.andThen g else g.andThen (more 3 16)
  | n, none => (times g n).andThen fork
  | 0, some 1 => (fork.andThen g).andThen state
  | n, some m =>
    let needed := if n == 0 then state else times g n
    if n == m then needed else (needed.andThen state).andThen (times (fork.andThen g) (m - n))

end Growth

namespace Core

/-- The least number of characters that a core takes, unless there is a set in it without any. -/
def shortest : Core → Option Nat
  | empty | look _ => some 0
  | set s => if s.ranges.isEmpty then none else some 1
  | seq a b => do return (← a.shortest) + (← b.shortest)
  | alt a b => do return min (← a.shortest) (← b.shortest)
  | rep least _ _ body => body.shortest.map (least * ·)
  | group _ body => body.shortest

/-- Can a core match at the start of a text only, or read backwards at its end? -/
def isAnchored (d : Direction) : Core → Bool
  | look condition =>
    match d with
    | .forward => condition == .textStart
    | .backward => condition == .textEnd
  | seq a b =>
    match d with
    | .forward => a.isAnchored d || a.takesNothing && b.isAnchored d
    | .backward => b.isAnchored d || b.takesNothing && a.isAnchored d
  | alt a b => a.isAnchored d && b.isAnchored d
  | rep least _ _ body => least != 0 && body.isAnchored d
  | group _ body => body.isAnchored d
  | _ => false

/-- How an automaton grows by a core with the given branches. -/
def growthOf (d : Direction) (c : Core) (branches : List Growth) : Growth :=
  match c.options.mapM word? with
  | some (first :: second :: rest) => .ofWords d (first :: second :: rest)
  | _ => .ofBranches branches

/-- How an automaton grows by each of the branches of a core. -/
def growths (d : Direction) : Core → List Growth
  | empty | look _ => [.state]
  | set s => [.ofSet d s]
  | seq a b =>
    let first := growthOf d a (growths d a)
    let second := growthOf d b (growths d b)
    match d with
    | .forward => [first.andThen second]
    | .backward => [second.andThen first]
  | alt a b => growths d a ++ growths d b
  | rep least most _ body =>
    [.repetition (growthOf d body (growths d body)) body.shortest least most]
  | group _ body =>
    let inner := growthOf d body (growths d body)
    match d with
    | .forward => [(Growth.state.andThen inner).andThen .state]
    | .backward => [inner]

/-- The size of an automaton for a core. In front of one that is not anchored there is a loop over
any bytes, and one that reads forwards notes where a match begins and ends. -/
def size? (d : Direction) (c : Core) : Option Size := do
  let s ← (if c.isAnchored d then .state else .more 3 16 : Growth) .zero
  Growth.state (← (growths d (.group 0 c)).foldlM (fun s g => g s) s)

/-- The least number of words for which no automaton of this kind is built. -/
def manyWords : Nat := 3000

/-- Are there automata for a core? A choice of many words needs none. -/
def fits (c : Core) : Bool :=
  (c.size? .forward).isSome && (c.size? .backward).isSome
    || manyWords ≤ c.options.length && c.options.all (·.word?.isSome)

end Core

end ReleaseGate.Pattern
