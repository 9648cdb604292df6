import ReleaseGate.Yaml.Token

/-!
# Layout — how indentation and pending keys turn into tokens

A line that is indented further than the block around it begins a block, and one that is indented
less ends blocks. Whether a node is a key is known only when a colon follows it: until then it is
kept in mind where it began, and the tokens of the key are put in front of it afterwards. Such a key
has to end on its own line within 1024 characters.
-/

namespace ReleaseGate.Yaml

/-- A node that may turn out to be a key. -/
structure PendingKey where
  /-- The number of tokens before it. -/
  position : Nat
  /-- Must it be a key, because it begins a line of a block mapping? -/
  required : Bool
  start : Cursor
  deriving Repr, DecidableEq

namespace PendingKey

/-- The most characters between the start of a key and its colon. -/
def reach : Nat := 1024

/-- Is it too late for a colon? -/
def expired (k : PendingKey) (c : Cursor) : Bool :=
  k.start.mark.line < c.mark.line || k.start.index + reach < c.index

/-- The fault of a required key without a colon. -/
def fault (k : PendingKey) (c : Cursor) : Fault :=
  c.fault .noColon .simpleKey k.start.mark

end PendingKey

/-- How far a text is read as tokens. -/
structure Layout where
  cursor : Cursor
  /-- The tokens so far, the last one first. -/
  tokens : List (Token × Mark)
  /-- One more than the column of the block around the place; zero outside of all blocks. -/
  margin : Nat
  /-- The margins of the blocks around that block, the nearest first. -/
  outerMargins : List Nat
  /-- The pending key of the flow collection around the place, or of the block. -/
  pending : Option PendingKey
  /-- The pending keys of what is around that flow collection, the nearest first. -/
  outerPending : List (Option PendingKey)
  /-- May a key begin here? -/
  keyAllowed : Bool
  deriving Repr

namespace Layout

/-- The start of a text. -/
def start (text : List Char) : Layout :=
  ⟨Cursor.start text, [], 0, [], none, [], true⟩

/-- Is the place in a flow collection? -/
def inFlow (l : Layout) : Bool :=
  !l.outerPending.isEmpty

/-- Add a token. -/
def add (l : Layout) (t : Token) (m : Mark) : Layout :=
  { l with tokens := (t, m) :: l.tokens }

/-- Put a token behind the first so many ones. -/
def insert (l : Layout) (position : Nat) (t : Token) (m : Mark) : Layout :=
  let later := l.tokens.length - position
  { l with tokens := l.tokens.take later ++ (t, m) :: l.tokens.drop later }

/-- Add an indicator of so many characters that is next. -/
def indicator (l : Layout) (t : Token) (length : Nat) : Layout :=
  { l.add t l.cursor.mark with cursor := l.cursor.skip length }

/-- Begin a block at a column if it is further in than the block around it. Its token goes to the
given position, or to the end. -/
def openBlock (l : Layout) (m : Mark) (t : Token) (position : Option Nat) : Layout :=
  if l.inFlow || m.column < l.margin then l
  else
    let l := { l with margin := m.column + 1, outerMargins := l.margin :: l.outerMargins }
    match position with
    | none => l.add t m
    | some n => l.insert n t m

/-- End blocks until the margin is no more than the given one; `outer` are the margins around. -/
def closeFrom (m : Mark) (least : Nat) (tokens : List (Token × Mark)) (margin : Nat) :
    List Nat → List (Token × Mark) × Nat × List Nat
  | [] => (tokens, margin, [])
  | next :: outer =>
    if least < margin then closeFrom m least ((.blockEnd, m) :: tokens) next outer
    else (tokens, margin, next :: outer)

/-- End the blocks that are further in than the given margin. -/
def closeBlocks (l : Layout) (least : Nat) : Layout :=
  if l.inFlow then l
  else
    let (tokens, margin, outer) := closeFrom l.cursor.mark least l.tokens l.margin l.outerMargins
    { l with tokens := tokens, margin := margin, outerMargins := outer }

/-- Forget the pending key. -/
def dropKey (l : Layout) : Except Fault Layout :=
  match l.pending with
  | some k => if k.required then .error (k.fault l.cursor) else .ok { l with pending := none }
  | none => .ok l

/-- Keep in mind that a key may begin here. -/
def saveKey (l : Layout) : Except Fault Layout :=
  if !l.keyAllowed then .ok l
  else do
    let l ← l.dropKey
    let required := !l.inFlow && l.margin == l.cursor.mark.column + 1
    return { l with pending := some ⟨l.tokens.length, required, l.cursor⟩ }

/-- A pending key that can still have its colon at the place. -/
def unexpired (c : Cursor) : Option PendingKey → Except Fault (Option PendingKey)
  | none => .ok none
  | some k =>
    if !k.expired c then .ok (some k) else if k.required then .error (k.fault c) else .ok none

/-- Forget the pending keys that can no longer have their colon. -/
def dropExpired (l : Layout) : Except Fault Layout := do
  let pending ← unexpired l.cursor l.pending
  let outer ← l.outerPending.mapM (unexpired l.cursor)
  return { l with pending := pending, outerPending := outer }

/-- The number of tokens before every pending key: no token will be put in between them. -/
def settled (l : Layout) : Nat :=
  (l.pending :: l.outerPending).foldl
    (fun least k => match k with
      | some k => min least k.position
      | none => least) l.tokens.length

/-- The tokens that are settled, the last one first. -/
def settledTokens (l : Layout) : List (Token × Mark) :=
  l.tokens.drop (l.tokens.length - l.settled)

/-- A flow collection begins with the indicator that is next. -/
def openFlow (l : Layout) (t : Token) : Except Fault Layout := do
  let l ← l.saveKey
  return { l with pending := none, outerPending := l.pending :: l.outerPending, keyAllowed := true }
    |>.indicator t 1

/-- A flow collection ends with the indicator that is next. -/
def closeFlow (l : Layout) (t : Token) : Except Fault Layout := do
  let l ← l.dropKey
  let l := match l.outerPending with
    | [] => l
    | pending :: outer => { l with pending := pending, outerPending := outer }
  return { l with keyAllowed := false }.indicator t 1

/-- A comma is next. -/
def comma (l : Layout) : Except Fault Layout := do
  return { (← l.dropKey) with keyAllowed := true }.indicator .comma 1

/-- An indicator of a block is next: it may begin one when a key may begin here. -/
def blockIndicator (l : Layout) (block t : Token) (problem : Problem) (allowed : Bool) :
    Except Fault Layout := do
  if !l.inFlow && !l.keyAllowed then throw (.malformed problem l.cursor.mark none)
  let l ← (l.openBlock l.cursor.mark block none).dropKey
  return { l with keyAllowed := allowed }.indicator t 1

/-- The hyphen of an entry is next. -/
def entry (l : Layout) : Except Fault Layout :=
  l.blockIndicator .blockSequence .entry .entryNotAllowed true

/-- The question mark of a key is next. -/
def key (l : Layout) : Except Fault Layout :=
  l.blockIndicator .blockMapping .key .keyNotAllowed (!l.inFlow)

/-- The colon of a value is next. -/
def value (l : Layout) : Except Fault Layout :=
  match l.pending with
  | some k =>
    let l := l.insert k.position .key k.start.mark
    let l := l.openBlock k.start.mark .blockMapping (some k.position)
    .ok ({ l with pending := none, keyAllowed := false }.indicator .value 1)
  | none => l.blockIndicator .blockMapping .value .valueNotAllowed (!l.inFlow)

/-- Read a token of a node that may turn out to be a key. -/
def node (l : Layout) (read : Cursor → Except Fault (Token × Cursor)) : Except Fault Layout := do
  let l ← l.saveKey
  let (t, c) ← read l.cursor
  return { l.add t l.cursor.mark with cursor := c, keyAllowed := false }

/-- Leave all blocks before a line that belongs to no document. -/
def leaveBlocks (l : Layout) : Except Fault Layout := do
  return { (← (l.closeBlocks 0).dropKey) with keyAllowed := false }

end Layout

end ReleaseGate.Yaml
