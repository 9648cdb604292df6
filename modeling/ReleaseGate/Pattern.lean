import ReleaseGate.Pattern.Meaning
import ReleaseGate.Pattern.Search
import ReleaseGate.Pattern.Size

/-!
# Patterns — texts with a hole

A pattern is compiled once and then applied to texts. What counts is the first group: it takes the
part of a text that the role's digest is read from.
-/

namespace ReleaseGate

/-- A compiled pattern. -/
structure Pattern where
  source : String
  /-- The number of the last group that can take part in a match. -/
  groups : Nat
  entry : Nat
  program : Pattern.Program

namespace Pattern

/-- What makes a pattern of a source text, or tells what is wrong with the text. -/
abbrev Compiler := String → Except String Pattern

/-- The pattern that a core stands for, under its source. -/
def ofCore (source : String) (c : Core) : Pattern :=
  let (entry, program) := Program.ofCore c
  ⟨source, c.lastGroup, entry, program⟩

/-- The core of a source text. -/
def coreOfText (source : String) : Except Complaint Core := do
  Core.ofTree .plain (← Tree.read source)

/-- Are there automata for a source text that keep to the limit of memory? -/
def fits (source : String) : Bool :=
  match Tree.read source >>= Core.ofTree .merging with
  | .ok c => c.fits
  | .error _ => false

/-- Compile a source text. -/
def compile (source : String) : Except String Pattern :=
  match coreOfText source with
  | .error complaint =>
    .error (Fault.at source complaint.cause complaint.span complaint.earlier).message
  | .ok c =>
    if fits source then .ok (ofCore source c)
    else .error (Fault.tooLarge memoryLimit).message

/-- The part of a text between two positions. -/
def between (text : List Char) (start stop : Nat) : String :=
  String.ofList ((text.drop start).take (stop - start))

/-- What the first group takes of a text, in the preferred of the matches that begin first. -/
def capture? (p : Pattern) (text : String) : Option String := do
  let chars := text.toList
  let way ← search p.program p.entry chars
  let (start, stop) ← way.taken
  return between chars start stop

end Pattern

end ReleaseGate
