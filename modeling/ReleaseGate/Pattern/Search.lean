import ReleaseGate.Pattern.Named
import ReleaseGate.Pattern.Program

/-!
# Searching — the preferred match that begins first

All ways of matching are followed side by side, one character at a time, in the order in which they
are preferred. Two ways that are at the same instruction have the same future, so only the preferred
one is kept and a search takes time proportional to the text. A way that begins later ranks below all
that began before it; once a way has matched, those ranked below it are dropped.
-/

namespace ReleaseGate.Pattern

/-- The characters on both sides of a position. -/
structure Neighbours where
  before : Option Char
  after : Option Char

namespace WordKind

/-- Does a character count as part of a word? -/
def contains : WordKind → Char → Bool
  | ascii, c => c.isAlphanum || c == '_'
  | unicode, c => if c.toNat < 0x80 then c.isAlphanum || c == '_' else wordSet.contains c

/-- Is there a character that counts as part of a word? -/
def at? (kind : WordKind) : Option Char → Bool
  | none => false
  | some c => kind.contains c

end WordKind

/-- Does a condition hold between two neighbours? -/
def Look.holds (n : Neighbours) : Look → Bool
  | textStart => n.before.isNone
  | textEnd => n.after.isNone
  | lineStart => n.before.isNone || n.before == some '\n'
  | lineEnd => n.after.isNone || n.after == some '\n'
  | anyLineStart =>
    n.before.isNone || n.before == some '\n' || (n.before == some '\r' && n.after != some '\n')
  | anyLineEnd =>
    n.after.isNone || n.after == some '\r' || (n.after == some '\n' && n.before != some '\r')
  | word kind => kind.at? n.before != kind.at? n.after
  | notWord kind => kind.at? n.before == kind.at? n.after
  | wordStart kind => !kind.at? n.before && kind.at? n.after
  | wordEnd kind => kind.at? n.before && !kind.at? n.after
  | wordStartHalf kind => !kind.at? n.before
  | wordEndHalf kind => !kind.at? n.after

/-- One way of matching: the instruction it is at, where the group last began, and what the group
last took. Positions count characters. -/
structure Way where
  address : Nat
  opened : Nat
  taken : Option (Nat × Nat)
  deriving Repr

/-- A set of addresses, as the binary digits of a number. -/
abbrev Seen := Nat

/-- The ways that an instruction opens without taking a character, in order of preference; none for
an instruction that takes one or accepts. -/
def Way.branches (n : Neighbours) (position : Nat) (w : Way) : Instruction → List Way
  | .take _ _ | .accept => []
  | .check condition next => if condition.holds n then [{ w with address := next }] else []
  | .branch first second => [{ w with address := first }, { w with address := second }]
  | .opening next => [{ w with address := next, opened := position }]
  | .closing next => [{ w with address := next, taken := some (w.opened, position) }]

/-- Does a way wait at an instruction, to take a character or to accept? -/
def Instruction.waits : Instruction → Bool
  | take _ _ | accept => true
  | _ => false

/-- Follow ways, in order of preference, to the instructions at which they wait. An address is
entered once. -/
def follow (p : Program) (n : Neighbours) (position : Nat) :
    Nat → Seen → List Way → List (Way × Instruction)
  | 0, _, _ => []
  | _ + 1, _, [] => []
  | fuel + 1, seen, w :: ways =>
    if seen.testBit w.address then follow p n position fuel seen ways
    else
      match p[w.address]? with
      | none => follow p n position fuel seen ways
      | some i =>
        let seen := seen ||| (1 <<< w.address)
        if i.waits then (w, i) :: follow p n position fuel seen ways
        else follow p n position fuel seen (w.branches n position i ++ ways)

/-- The ways at a position that wait to take a character, and the preferred one that accepts; those
that rank below it are dropped. -/
def settle : List (Way × Instruction) → List (Way × Instruction) × Option Way
  | [] => ([], none)
  | (w, .accept) :: _ => ([], some w)
  | waiting :: rest =>
    let (more, matched) := settle rest
    (waiting :: more, matched)

/-- The way behind a character, if the way takes it. -/
def advance (c : Char) : Way × Instruction → Option Way
  | (w, .take set next) => if set.contains c then some { w with address := next } else none
  | _ => none

/-- What the ways at a position come to: those that wait to take a character, and the best match so
far. As long as there was none before, a way may also begin here. -/
def arrive (p : Program) (entry : Nat) (n : Neighbours) (position : Nat) (ways : List Way)
    (matched : Option Way) : List (Way × Instruction) × Option Way :=
  let ways := if matched.isNone then ways ++ [⟨entry, 0, none⟩] else ways
  let fuel := ways.length + 2 * p.size + 1
  let (waiting, found) := settle (follow p n position fuel 0 ways)
  (waiting, found.or matched)

/-- Search the rest of a text from the given ways, with the best match so far. -/
def searchFrom (p : Program) (entry : Nat) (before : Option Char) (position : Nat)
    (ways : List Way) (matched : Option Way) : List Char → Option Way
  | [] => (arrive p entry ⟨before, none⟩ position ways matched).2
  | c :: cs =>
    let (waiting, matched) := arrive p entry ⟨before, some c⟩ position ways matched
    let ways := waiting.filterMap (advance c)
    if ways.isEmpty && matched.isSome then matched
    else searchFrom p entry (some c) (position + 1) ways matched cs

/-- The preferred match of a program in a text. -/
def search (p : Program) (entry : Nat) (text : List Char) : Option Way :=
  searchFrom p entry none 0 [] none text

end ReleaseGate.Pattern
