import ReleaseGate.Pattern.Core

/-!
# Merging — a pattern without what it says twice

Automata are built from a pattern that has been brought into a shorter form. What is empty is
dropped from a sequence. Branches that are single characters, or classes, are one class. And what
all branches of a choice begin with is taken out and put in front of them.
-/

namespace ReleaseGate.Pattern

open Unicode

/-- How the core of a whole is put together from those of its parts. -/
structure Composer where
  sequence : List Core → Core
  branches : List Core → Core

namespace Core

/-- The parts of a sequence, without those that are empty. -/
def parts : Core → List Core
  | empty => []
  | seq a b => a.parts ++ b.parts
  | c => [c]

/-- The branches of a choice. -/
def options : Core → List Core
  | alt a b => a.options ++ b.options
  | c => [c]

/-- The class of a core that is nothing else. -/
def class? : Core → Option CharSet
  | set s => some s
  | _ => none

/-- The character that a core takes, when there is just one. -/
def single? : Core → Option Nat
  | set ⟨[(lo, hi)]⟩ => if lo == hi then some lo else none
  | _ => none

/-- The characters that a core takes one after the other, when there is just one for each. -/
def word? : Core → Option (List Nat)
  | seq a b => do return (← a.word?) ++ (← b.word?)
  | c => c.single?.map fun n => [n]

/-- The parts of a sequence, with the characters of a word taken together. -/
def words (c : Core) : List (List Core) :=
  c.parts.splitBy fun a b => a.single?.isSome && b.single?.isSome

/-- Several patterns one behind the other, in one sequence. -/
def joined (cs : List Core) : Core :=
  sequence (cs.flatMap parts)

/-- Several branches, which are one class if they are all single characters or all classes. -/
def choice (cs : List Core) : Core :=
  if cs.all (·.single?.isSome) || cs.all (fun c => c.class?.isSome && c.single?.isNone) then
    set (CharSet.unions (cs.filterMap class?))
  else branches cs

/-- What two lists begin with. -/
def shared {α : Type} [DecidableEq α] : List α → List α → List α
  | a :: as, b :: bs => if a = b then a :: shared as bs else []
  | _, _ => []

/-- What all branches begin with. A branch that is one word, or one part, does not count as one that
begins with it. -/
def front : List (List (List Core)) → List (List Core)
  | [] => []
  | [ws] => if ws.length < 2 then [] else ws
  | ws :: rest => if ws.length < 2 then [] else shared ws (front rest)

/-- Several branches, with what they all begin with in front of them. -/
def merged (cs : List Core) : Core :=
  match cs.flatMap options with
  | [c] => c
  | cs =>
    let common := front (cs.map words)
    if common.isEmpty then choice cs
    else
      let rest := cs.map fun c => joined (c.words.drop common.length).flatten
      joined (common.flatten ++ [choice (rest.flatMap options)])

end Core

namespace Composer

/-- The parts are left as they are. -/
def plain : Composer := ⟨Core.sequence, Core.branches⟩

/-- The parts are merged. -/
def merging : Composer := ⟨Core.joined, Core.merged⟩

end Composer

end ReleaseGate.Pattern
