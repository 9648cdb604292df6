import ReleaseGate.Pattern.Escape

/-!
# Classes in brackets — sets of characters built from ranges and other sets

Brackets nest, and three operators of equal rank join what stands beside them from the left: `&&`,
`--` and `~~`. A class is read over a stack of what is still open, so that the innermost open
bracket is named when the pattern ends too early.
-/

namespace ReleaseGate.Pattern

open Reading

/-- The items of a class that stand side by side, last first, and the span they take. -/
structure Items where
  span : Span
  items : List SetTree

namespace Items

/-- No items yet, at the given offset. -/
def start (offset : Nat) : Items :=
  ⟨⟨offset, offset⟩, []⟩

/-- One more item. -/
def push (u : Items) (item : SetTree) : Items :=
  let first := if u.items.isEmpty then item.span.start else u.span.start
  ⟨⟨first, item.span.stop⟩, item :: u.items⟩

/-- The items as one part of a class. -/
def toSet (u : Items) : SetTree :=
  match u.items with
  | [] => .empty u.span
  | [item] => item
  | items => .union u.span items.reverse

end Items

/-- What is still open around the items being read. -/
inductive OpenSet where
  /-- A bracket with the span of its opening, and the items before it in the class around it. -/
  | bracket (before : Items) (span : Span) (negated : Bool)
  /-- An operator behind its left side. -/
  | op (op : SetOp) (lhs : SetTree)

/-- Join a right side to the operator before it, if there is one. -/
def closeOp (rhs : SetTree) : List OpenSet → SetTree × List OpenSet
  | .op o lhs :: stack => (.op ⟨lhs.span.start, rhs.span.stop⟩ o lhs rhs, stack)
  | stack => (rhs, stack)

/-- The span of the innermost open bracket. -/
def innermost : List OpenSet → Span
  | [] => default
  | .bracket _ span _ :: _ => span
  | .op _ _ :: stack => innermost stack

/-- Read the hyphens at the front of a class, which stand for themselves; `start` is the offset of
the bracket. -/
def readHyphens (start : Nat) (u : Items) : Nat → Reading Items
  | 0 => return u
  | fuel + 1 => do
    match ← peek with
    | some '-' =>
      let u := u.push (.literal ⟨(← get).charSpan, '-', false⟩)
      match ← next with
      | none => fail .classUnclosed ⟨start, start⟩
      | some _ => readHyphens start u fuel
    | _ => return u

/-- Read an opening bracket and what belongs to it: a caret, hyphens, and a bracket that closes
nothing because it comes first. -/
def readOpening : Reading (Span × Bool × Items) := do
  let start ← offset
  match ← next with
  | none => failFrom .classUnclosed start
  | some first =>
    let negated := first == '^'
    let first ← if negated then next else pure (some first)
    if first.isNone then failFrom .classUnclosed start
    else
      let u ← readHyphens start (Items.start (← offset)) ((← get).rest.length + 1)
      if u.items.isEmpty && (← peek) == some ']' then
        let u := u.push (.literal ⟨(← get).charSpan, ']', false⟩)
        match ← next with
        | none => failFrom .classUnclosed start
        | some _ => return ((← get).spanFrom start, negated, u)
      else return ((← get).spanFrom start, negated, u)

/-- The class with the given name between colons. -/
def posixNameOf? (name : String) : Option PosixName :=
  match name with
  | "alnum" => some .alnum
  | "alpha" => some .alpha
  | "ascii" => some .ascii
  | "blank" => some .blank
  | "cntrl" => some .cntrl
  | "digit" => some .digit
  | "graph" => some .graph
  | "lower" => some .lower
  | "print" => some .print
  | "punct" => some .punct
  | "space" => some .space
  | "upper" => some .upper
  | "word" => some .word
  | "xdigit" => some .xdigit
  | _ => none

/-- The class between colons that the text `[:name:]` at the front of `text` names, whether it is
negated, and the number of characters it takes. -/
def posixAt? (text : List Char) : Option (PosixName × Bool × Nat) := do
  let rest ← match text with
    | '[' :: ':' :: rest => some rest
    | _ => none
  let negated := rest.head? == some '^'
  let rest := if negated then rest.drop 1 else rest
  let name := rest.takeWhile (· != ':')
  let kind ← posixNameOf? (String.ofList name)
  if [':', ']'].isPrefixOf (rest.drop name.length) then
    return (kind, negated, name.length + (if negated then 5 else 4))
  else none

/-- Read a class between colons, if one stands at the cursor. -/
def readPosix? : Reading (Option SetTree) := do
  let k ← get
  match posixAt? k.rest with
  | none => return none
  | some (name, negated, width) =>
    set (k.forward width)
    return some (.posix ⟨k.offset, k.offset + width⟩ name negated)

/-- Read one atom of a class. -/
def readSetAtom (c : Char) : Reading Atom := do
  if c == '\\' then readEscape
  else
    let span := (← get).charSpan
    bump
    return .literal ⟨span, c, false⟩

/-- An atom as an item of a class. -/
def itemOf : Atom → Reading SetTree
  | .literal lit => return .literal lit
  | .property s name negated => return .property s name negated
  | .shorthand s name negated => return .shorthand s name negated
  | .dot s | .boundary s _ => fail .classEscape s

/-- An atom as an end of a range. -/
def boundOf : Atom → Reading Literal
  | .literal lit => return lit
  | other => fail .classRangeBound other.span

/-- The character behind the one at the cursor, over what may be passed over. When nothing but
spacing is left, it is the first character of the spacing. -/
def peekPast : Reading (Option Char) := do
  let k ← get
  let after := k.rest.drop 1
  if !k.freeSpacing then return after.head?
  else
    let rest := after.dropWhile Text.isBlank
    let rest := match rest with
      | '#' :: more => more.dropWhile Text.isBlank
      | _ => rest
    return if rest.isEmpty then after.head? else rest.head?

/-- Read an item of a class that is not a class itself: an atom, or a range between two. -/
def readItem (stack : List OpenSet) (c : Char) : Reading SetTree := do
  let low ← readSetAtom c
  skip
  match ← peek with
  | none => fail .classUnclosed (innermost stack)
  | some d =>
    let after ← peekPast
    if d != '-' || after == some ']' || after == some '-' then itemOf low
    else
      match ← next with
      | none => fail .classUnclosed (innermost stack)
      | some e =>
        let high ← readSetAtom e
        let span : Span := ⟨low.span.start, high.span.stop⟩
        let lo ← boundOf low
        let hi ← boundOf high
        if hi.char < lo.char then fail .classRange span else return .range span lo hi

/-- The operator at the cursor. -/
def opAt? : List Char → Option SetOp
  | '&' :: '&' :: _ => some .intersection
  | '-' :: '-' :: _ => some .difference
  | '~' :: '~' :: _ => some .symmetricDifference
  | _ => none

/-- Read a class from what is open and the items read so far. -/
def readBracketedFrom (stack : List OpenSet) (u : Items) : Nat → Reading Bracketed
  | 0 => fail .classUnclosed (innermost stack)
  | fuel + 1 => do
    skip
    match ← peek with
    | none => fail .classUnclosed (innermost stack)
    | some '[' =>
      match ← if stack.isEmpty then pure none else readPosix? with
      | some item => readBracketedFrom stack (u.push item) fuel
      | none =>
        let (span, negated, inner) ← readOpening
        readBracketedFrom (.bracket u span negated :: stack) inner fuel
    | some ']' =>
      match closeOp u.toSet stack with
      | (set, .bracket before span negated :: stack) => do
        bump
        let b := Bracketed.mk ⟨span.start, ← offset⟩ negated set
        if stack.isEmpty then return b
        else readBracketedFrom stack (before.push (.bracketed b)) fuel
      | (_, stack) => fail .classUnclosed (innermost stack)
    | some c =>
      match opAt? (← get).rest with
      | some o =>
        let (lhs, stack) := closeOp u.toSet stack
        modify fun k => k.forward 2
        readBracketedFrom (.op o lhs :: stack) (Items.start (← offset)) fuel
      | none =>
        let item ← readItem stack c
        readBracketedFrom stack (u.push item) fuel

/-- Read a class in brackets; the cursor is on its opening bracket. -/
def readBracketed : Reading Bracketed := do
  let k ← get
  readBracketedFrom [] (Items.start k.offset) (k.rest.length + 1)

end ReleaseGate.Pattern
