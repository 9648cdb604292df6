import ReleaseGate.Pattern.Brackets

/-!
# Reading patterns — from a text to the tree of its parts

The pattern is read from left to right over a stack of open groups and alternations. Repetitions
bind to the part before them, so they never look ahead. When the whole text has been read, the depth
of the tree is checked.
-/

namespace ReleaseGate.Pattern

open Reading

/-- Parts that follow each other, last first, and the offset where they begin. -/
structure Sequence where
  start : Nat
  parts : List Tree

/-- The parts of a sequence that ends at the given offset, as one tree. -/
def Sequence.toTree (q : Sequence) (stop : Nat) : Tree :=
  match q.parts with
  | [] => .empty ⟨q.start, stop⟩
  | [part] => part
  | parts => .sequence ⟨q.start, stop⟩ parts.reverse

/-- What is still open around the parts being read. -/
inductive OpenGroup where
  /-- A group, with the parts before it, the span of its parenthesis, and what held for free spacing
  before it. -/
  | group (before : Sequence) (kind : GroupKind) (span : Span) (freeSpacing : Bool)
  /-- The branches of an alternation so far, last first, and the offset where it begins. -/
  | branches (start : Nat) (parts : List Tree)

/-- The state that a list of flags gives to a flag, if it names it. -/
def stateOf (f : Flag) (on : Bool) : List FlagItem → Option Bool
  | [] => none
  | .negation :: rest => stateOf f false rest
  | .flag g :: rest => if g == f then some on else stateOf f on rest

/-- The flag that a letter names. -/
def flagOf? (c : Char) : Option Flag :=
  match c with
  | 'i' => some .ignoreCase
  | 'm' => some .multiLine
  | 's' => some .dotAll
  | 'U' => some .swapGreed
  | 'u' => some .unicode
  | 'R' => some .crlf
  | 'x' => some .freeSpacing
  | _ => none

/-- Read flags up to a colon or a closing parenthesis. `items` holds the flags so far with their
spans, last first. -/
def readFlags (items : List (FlagItem × Span)) : Nat → Reading (List FlagItem)
  | 0 => failHere .flagCut
  | fuel + 1 => do
    match ← peek with
    | none => failHere .flagCut
    | some c =>
      if c == ':' || c == ')' then
        match items with
        | (.negation, span) :: _ => fail .flagDangling span
        | _ => return (items.map Prod.fst).reverse
      else
        let span := (← get).charSpan
        let item ← match if c == '-' then some .negation else (flagOf? c).map FlagItem.flag with
          | some item => pure item
          | none => fail .flagUnknown span
        match items.find? fun earlier => earlier.1 == item with
        | some earlier =>
          throw ⟨if c == '-' then .flagNegatedTwice else .flagTwice, span, some earlier.2⟩
        | none =>
          bump
          if (← peek).isNone then failHere .flagCut
          else readFlags ((item, span) :: items) fuel

/-- A character that may stand in the name of a group; fewer may stand first. -/
def isNameChar (first : Bool) (c : Char) : Bool :=
  c == '_' || Unicode.Property.alphabetic.contains c ||
    (!first && (c == '.' || c == '[' || c == ']' || Unicode.Category.number.contains c))

/-- Read the name of a group up to its closing angle bracket; `name` holds what was read, last
first. -/
def readNameChars (name : List Char) : Nat → Reading (List Char)
  | 0 => return name.reverse
  | fuel + 1 => do
    match ← peek with
    | none => failHere .nameUnclosed
    | some '>' => return name.reverse
    | some c =>
      if isNameChar name.isEmpty c then
        bump
        readNameChars (c :: name) fuel
      else failChar .nameCharacter

/-- Read the name of a group and remember it. -/
def readName : Reading Unit := do
  let start ← offset
  let chars ← readNameChars [] ((← get).rest.length + 1)
  let span := (← get).spanFrom start
  bump
  if chars.isEmpty then fail .nameEmpty ⟨start, start⟩
  else
    let name := String.ofList chars
    match (← get).names.lookup name with
    | some earlier => throw ⟨.nameTwice, span, some earlier⟩
    | none => modify fun k => { k with names := (name, span) :: k.names }

/-- What an opening parenthesis begins. -/
inductive Opening where
  /-- Flags for what follows, closed at once. -/
  | flags (items : List FlagItem)
  | group (kind : GroupKind)

/-- Count one more capturing group. -/
def openCapture : Reading Opening := do
  modify fun k => { k with groups := k.groups + 1 }
  return .group (.capture (← get).groups)

/-- Read what follows an opening parenthesis that stands at `start`. -/
def readGroupOpening (start : Nat) : Reading Opening := do
  if ← take ["?=", "?!", "?<=", "?<!"] then
    failFrom .lookAround start
  else
    let inner ← offset
    if ← take ["?P<", "?<"] then
      let opening ← openCapture
      readName
      return opening
    else if ← take ["?"] then
      if (← peek).isNone then fail .groupUnclosed ⟨start, start + 1⟩
      else
        let items ← readFlags [] ((← get).rest.length + 1)
        let closed := (← peek) == some ')'
        bump
        if !closed then return .group (.plain items)
        else if items.isEmpty then fail .nothingToRepeat ⟨inner, inner⟩
        else return .flags items
    else openCapture

/-- Read decimal digits; `digits` holds those read, last first. -/
def readDecimalDigits (digits : List Char) : Nat → Reading (List Char)
  | 0 => return digits.reverse
  | fuel + 1 => do
    match ← peek with
    | none => return digits.reverse
    | some c =>
      if c.isDigit then
        let _ ← next
        readDecimalDigits (c :: digits) fuel
      else return digits.reverse

/-- Move over white space. -/
def skipBlanks : Reading Unit :=
  modify fun k => k.forward (k.rest.takeWhile Text.isBlank).length

/-- The largest count of a repetition. -/
def largestCount : Nat := Nat.pow 2 32 - 1

/-- Read a decimal number with white space around it. What is wrong with it is given as a value, for
a fault that is seen later can weigh more. -/
def readDecimal : Reading (Except Complaint Nat) := do
  skipBlanks
  let start ← offset
  let digits ← readDecimalDigits [] ((← get).rest.length + 1)
  let span := (← get).spanFrom start
  skipBlanks
  skip
  let n := digits.foldl (fun n c => n * 10 + (c.toNat - '0'.toNat)) 0
  if digits.isEmpty then return .error ⟨.countEmpty, span, none⟩
  else if largestCount < n then return .error ⟨.decimalTooLarge, span, none⟩
  else return .ok n

/-- Take the part that a repetition stands behind. -/
def repeated (q : Sequence) : Reading (Tree × Sequence) :=
  match q.parts with
  | [] | .empty _ :: _ | .flags _ _ :: _ => failHere .nothingToRepeat
  | part :: parts => return (part, { q with parts := parts })

/-- Put a repeated part back, repeated. -/
def putBack (q : Sequence) (part : Tree) (least : Nat) (most : Option Nat) (greedy : Bool) :
    Reading Sequence := do
  let tree := Tree.repetition ⟨part.span.start, ← offset⟩ least most greedy part
  return { q with parts := tree :: q.parts }

/-- Read a repetition by one of the marks `?`, `*` and `+`. -/
def readMark (q : Sequence) (least : Nat) (most : Option Nat) : Reading Sequence := do
  let (part, q) ← repeated q
  bump
  let lazily := (← peek) == some '?'
  if lazily then bump
  putBack q part least most (!lazily)

/-- Read the counts of a repetition behind the opening brace at `start`. -/
def readCounts (start : Nat) : Reading (Nat × Option Nat) := do
  let first ← readDecimal
  match ← peek with
  | none => failFrom .countUnclosed start
  | some ',' =>
    match ← next with
    | none => failFrom .countUnclosed start
    | some '\x7d' => return (← ofExcept first, none)
    | some _ =>
      let least ← ofExcept first
      return (least, some (← ofExcept (← readDecimal)))
  | some _ =>
    let n ← ofExcept first
    return (n, some n)

/-- Read a repetition by counts in braces. -/
def readCounted (q : Sequence) : Reading Sequence := do
  let start ← offset
  let (part, q) ← repeated q
  if (← next).isNone then failFrom .countUnclosed start
  else
    let (least, most) ← readCounts start
    if (← peek) != some '\x7d' then failFrom .countUnclosed start
    else
      let lazily := (← next) == some '?'
      if lazily then bump
      match most with
      | some m => if m < least then failFrom .countOrder start
      | none => pure ()
      putBack q part least most (!lazily)

/-- Close the parts read so far into the branches they belong to. -/
def branch (q : Sequence) (stop : Nat) : List OpenGroup → List OpenGroup
  | .branches start parts :: stack => .branches start (q.toTree stop :: parts) :: stack
  | stack => .branches q.start [q.toTree stop] :: stack

/-- The parts read so far as one tree, with the branches before them, and what is open around. -/
def closeBranches (q : Sequence) (stop : Nat) : List OpenGroup → Tree × List OpenGroup
  | .branches start parts :: stack =>
    (.alternation ⟨start, stop⟩ (q.toTree stop :: parts).reverse, stack)
  | stack => (q.toTree stop, stack)

/-- Read an opening parenthesis. -/
def readOpen (stack : List OpenGroup) (q : Sequence) : Reading (List OpenGroup × Sequence) := do
  let start ← offset
  let _ ← next
  match ← readGroupOpening start with
  | .flags items =>
    modify fun k =>
      { k with freeSpacing := (stateOf .freeSpacing true items).getD k.freeSpacing }
    return (stack, { q with parts := .flags ((← get).spanFrom start) items :: q.parts })
  | .group kind =>
    let k ← get
    let items := match kind with
      | .plain items => items
      | .capture _ => []
    set { k with freeSpacing := (stateOf .freeSpacing true items).getD k.freeSpacing }
    return (.group q kind ⟨start, start + 1⟩ k.freeSpacing :: stack, ⟨k.offset, []⟩)

/-- Read a closing parenthesis. -/
def readClose (stack : List OpenGroup) (q : Sequence) : Reading (List OpenGroup × Sequence) := do
  match closeBranches q (← offset) stack with
  | (body, .group before kind span freeSpacing :: stack) =>
    modify fun k => { k with freeSpacing := freeSpacing }
    bump
    let tree := Tree.group ⟨span.start, ← offset⟩ kind body
    return (stack, { before with parts := tree :: before.parts })
  | _ => failChar .groupUnopened

/-- The tree of a pattern whose last parts have been read. -/
def finish (stack : List OpenGroup) (q : Sequence) : Reading Tree := do
  match closeBranches q (← offset) stack with
  | (tree, []) => return tree
  | (_, .group _ _ span _ :: _) => fail .groupUnclosed span
  | (_, .branches _ _ :: _) => failHere .groupUnclosed

/-- Read one part outside brackets that is no group and no repetition. -/
def readPart (c : Char) : Reading Tree := do
  let span := (← get).charSpan
  match c with
  | '[' => return .bracketed (← readBracketed)
  | '\\' => return (← readEscape).toTree
  | '.' =>
    bump
    return .dot span
  | '^' =>
    bump
    return .boundary span .lineStart
  | '$' =>
    bump
    return .boundary span .lineEnd
  | _ =>
    bump
    return .literal ⟨span, c, false⟩

/-- Read the rest of a pattern. -/
def readFrom (stack : List OpenGroup) (q : Sequence) : Nat → Reading Tree
  | 0 => finish stack q
  | fuel + 1 => do
    skip
    match ← peek with
    | none => finish stack q
    | some '(' =>
      let (stack, q) ← readOpen stack q
      readFrom stack q fuel
    | some ')' =>
      let (stack, q) ← readClose stack q
      readFrom stack q fuel
    | some '|' =>
      let stack := branch q (← offset) stack
      bump
      readFrom stack ⟨← offset, []⟩ fuel
    | some '?' => readFrom stack (← readMark q 0 (some 1)) fuel
    | some '*' => readFrom stack (← readMark q 0 none) fuel
    | some '+' => readFrom stack (← readMark q 1 none) fuel
    | some '\x7b' => readFrom stack (← readCounted q) fuel
    | some c =>
      let part ← readPart c
      readFrom stack { q with parts := part :: q.parts } fuel

/-- The most parts that may be nested in each other. -/
def depthLimit : Nat := 250

/-- The span that goes too deep when a part with this span is entered at this depth. -/
def enter (depth : Nat) (span : Span) (inside : Option Span) : Option Span :=
  if depthLimit ≤ depth then some span else inside

mutual

/-- The first part of a class that lies too deep. -/
def tooDeepSet (depth : Nat) : SetTree → Option Span
  | .bracketed b => tooDeepBracketed depth b
  | .union span items => enter depth span (tooDeepItems (depth + 1) items)
  | .op span _ lhs rhs =>
    enter depth span ((tooDeepSet (depth + 1) lhs).or (tooDeepSet (depth + 1) rhs))
  | _ => none

/-- The first part of a class in brackets that lies too deep. -/
def tooDeepBracketed (depth : Nat) : Bracketed → Option Span
  | .mk span _ set => enter depth span (tooDeepSet (depth + 1) set)

/-- The first of several items that lies too deep. -/
def tooDeepItems (depth : Nat) : List SetTree → Option Span
  | [] => none
  | item :: items => (tooDeepSet depth item).or (tooDeepItems depth items)

end

mutual

/-- The first part of a pattern that lies too deep. -/
def tooDeep (depth : Nat) : Tree → Option Span
  | .bracketed b => tooDeepBracketed depth b
  | .repetition span _ _ _ body => enter depth span (tooDeep (depth + 1) body)
  | .group span _ body => enter depth span (tooDeep (depth + 1) body)
  | .alternation span parts => enter depth span (tooDeepParts (depth + 1) parts)
  | .sequence span parts => enter depth span (tooDeepParts (depth + 1) parts)
  | _ => none

/-- The first of several parts that lies too deep. -/
def tooDeepParts (depth : Nat) : List Tree → Option Span
  | [] => none
  | part :: parts => (tooDeep depth part).or (tooDeepParts depth parts)

end

/-- The tree of a pattern. -/
def Tree.read (pattern : String) : Except Complaint Tree := do
  let text := pattern.toList
  let tree ← (readFrom [] ⟨0, []⟩ (text.length + 1)).run' (Cursor.start text)
  match tooDeep 0 tree with
  | some span => .error ⟨.tooNested depthLimit, span, none⟩
  | none => .ok tree

end ReleaseGate.Pattern
