import ReleaseGate.Pattern.Core

/-!
# Programs — a core pattern as a list of instructions

A program is built from its end: the code of a part is given the address to go on at and answers the
address where it begins. A loop reserves the address of its branching instruction first and fills it
in when the body is there. Of two ways on, the first is preferred.
-/

namespace ReleaseGate.Pattern

open Unicode

/-- One instruction. -/
inductive Instruction where
  /-- Take a character of the set and go on. -/
  | take (set : CharSet) (next : Nat)
  /-- Go on if the condition holds. -/
  | check (condition : Look) (next : Nat)
  | branch (first second : Nat)
  /-- Note that the capturing group begins here. -/
  | opening (next : Nat)
  /-- Note that the capturing group ends here. -/
  | closing (next : Nat)
  | accept
  deriving Repr

/-- Instructions by address. -/
abbrev Program := Array Instruction

namespace Program

/-- Add an instruction; its address comes first. -/
def add (p : Program) (i : Instruction) : Nat × Program :=
  (p.size, p.push i)

/-- A branching instruction with the preferred way on `into` when greedy and `past` otherwise. -/
def choice (greedy : Bool) (into past : Nat) : Instruction :=
  if greedy then .branch into past else .branch past into

/-- Apply a step `n` times to an address and a program. -/
def times (step : Nat → Program → Nat × Program) : Nat → Nat → Program → Nat × Program
  | 0, next, p => (next, p)
  | n + 1, next, p =>
    let (entry, p) := step next p
    times step n entry p

/-- A loop that goes through its body at least once. -/
def loop (body : Nat → Program → Nat × Program) (greedy : Bool) (next : Nat) (p : Program) :
    Nat × Program :=
  let (again, p) := p.add (.branch next next)
  let (entry, p) := body again p
  (entry, p.setIfInBounds again (choice greedy entry next))

/-- A loop that can be passed by, around a body that takes something. -/
def freeLoop (body : Nat → Program → Nat × Program) (greedy : Bool) (next : Nat) (p : Program) :
    Nat × Program :=
  let (again, p) := p.add (.branch next next)
  let (entry, p) := body again p
  (again, p.setIfInBounds again (choice greedy entry next))

/-- A body that can be passed by, before what begins at `past`. -/
def optional (body : Nat → Program → Nat × Program) (greedy : Bool) (past : Nat) (next : Nat)
    (p : Program) : Nat × Program :=
  let (entry, p) := body next p
  p.add (choice greedy entry past)

/-- The code of a repetition with the given code of its body, which takes something unless
`nullable`. -/
def repetition (body : Nat → Program → Nat × Program) (nullable : Bool) (least : Nat)
    (most : Option Nat) (greedy : Bool) (next : Nat) (p : Program) : Nat × Program :=
  match least, most with
  | 0, none =>
    if nullable then
      let (entry, p) := loop body greedy next p
      p.add (choice greedy entry next)
    else freeLoop body greedy next p
  | n + 1, none =>
    let (entry, p) := loop body greedy next p
    times body n entry p
  | n, some m =>
    let (entry, p) := times (optional body greedy next) (m - n) next p
    times body n entry p

/-- The code of a pattern in front of the address `next`. Only the first group is noted. -/
def code : Core → Nat → Program → Nat × Program
  | .empty => fun next p => (next, p)
  | .set s => fun next p => p.add (.take s next)
  | .look condition => fun next p => p.add (.check condition next)
  | .seq a b => fun next p =>
    let (entry, p) := code b next p
    code a entry p
  | .alt a b => fun next p =>
    let (second, p) := code b next p
    let (first, p) := code a next p
    p.add (.branch first second)
  | .rep least most greedy body => fun next p =>
    repetition (code body) body.nullable least most greedy next p
  | .group index body => fun next p =>
    if index == 1 then
      let (stop, p) := p.add (.closing next)
      let (entry, p) := code body stop p
      p.add (.opening entry)
    else code body next p

/-- The program of a pattern, and the address where it begins. -/
def ofCore (c : Core) : Nat × Program :=
  code c 0 #[.accept]

end Program

end ReleaseGate.Pattern
