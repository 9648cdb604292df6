import ReleaseGate.Yaml.Token.Block
import ReleaseGate.Yaml.Token.Directive
import ReleaseGate.Yaml.Token.Layout
import ReleaseGate.Yaml.Token.Plain
import ReleaseGate.Yaml.Token.Quoted

/-!
# The tokens of a text

`Tokens.ofText` reads token by token from the front. Tokens that a pending key may still come in
between are held back, so a fault hides them. A text is taken in blocks of 16384 bytes; a character
that may not stand in a text makes its whole block unreadable.
-/

namespace ReleaseGate.Yaml

namespace Layout

/-- Skip blanks, comments and line breaks. A tab may not stand where a key may begin. The answer
says whether a key may begin behind them. -/
def skipGaps (flow : Bool) : Nat → Bool → Cursor → Bool × Cursor
  | 0, allowed, c => (allowed, c)
  | fuel + 1, allowed, c =>
    let c := if c.index == 0 && c.at? '\uFEFF' then c.skip 1 else c
    let c := c.skipWhile fun x => x == ' ' || ((flow || !allowed) && x == '\t')
    let c := c.skipComment
    let lineBreak := c.lineBreak
    if lineBreak.isEmpty then (allowed, c)
    else skipGaps flow fuel (allowed || !flow) (c.past lineBreak)

/-- Go to the place where the next token begins. -/
def toNext (l : Layout) : Except Fault Layout := do
  let (allowed, c) := skipGaps l.inFlow (l.cursor.rest.length + 1) l.keyAllowed l.cursor
  let l ← { l with keyAllowed := allowed, cursor := c }.dropExpired
  return l.closeBlocks (c.mark.column + 1)

/-- The text ends: so does its last line, and all blocks. -/
def finish (l : Layout) : Except Fault Layout :=
  let m := l.cursor.mark
  let m := if m.column == 0 then m else m.nextLine
  { l with cursor := { l.cursor with mark := m } }.leaveBlocks

/-- Read the scalar without quotes that is next. -/
def plain (l : Layout) : Except Fault Layout := do
  let l ← l.saveKey
  let r ← Plain.read l.inFlow l.margin l.cursor
  return { l.add (.scalar r.text true) l.cursor.mark with cursor := r.rest, keyAllowed := r.broken }

/-- Read the block scalar that is next. -/
def block (l : Layout) (literal : Bool) : Except Fault Layout := do
  let l ← l.dropKey
  let (text, c) ← Block.read literal l.margin l.cursor
  return { l.add (.scalar text false) l.cursor.mark with cursor := c, keyAllowed := true }

/-- Read the quoted scalar that is next. -/
def quoted (l : Layout) (double : Bool) : Except Fault Layout :=
  l.node fun c => do
    let (text, c) ← Quoted.read double c
    return (.scalar text false, c)

/-- Characters that begin no scalar without quotes, unless it is said otherwise. -/
def indicators : List Char :=
  "-?:,[]\x7b\x7d#&*!|>'\"%@\x60".toList

/-- Does a scalar without quotes begin with these characters? -/
def beginsPlain (flow : Bool) : List Char → Bool
  | [] => false
  | c :: rest =>
    (!isGap c && !indicators.contains c) ||
      (c == '-' && !(rest.head?.map isBlank).getD false) ||
      (!flow && (c == '?' || c == ':') && !gapOrEnd rest)

/-- Is the given indicator next, with a gap behind it? In a flow collection the gap may be missing
when `tight` says so. -/
def atIndicator (l : Layout) (x : Char) (tight : Bool) : Bool :=
  l.cursor.at? x && ((tight && l.inFlow) || gapOrEnd (l.cursor.rest.drop 1))

/-- Read the token that begins here. -/
def readHere (l : Layout) : Except Fault Layout :=
  let c := l.cursor
  if c.mark.column == 0 && c.at? '%' then do
    let l ← l.leaveBlocks
    let (t, c) ← Directive.read l.cursor
    return { l.add t l.cursor.mark with cursor := c }
  else if c.atMarker '-' then do return (← l.leaveBlocks).indicator .documentStart 3
  else if c.atMarker '.' then do return (← l.leaveBlocks).indicator .documentEnd 3
  else if c.at? '[' then l.openFlow .flowSequence
  else if c.at? '\x7b' then l.openFlow .flowMapping
  else if c.at? ']' then l.closeFlow .flowSequenceEnd
  else if c.at? '\x7d' then l.closeFlow .flowMappingEnd
  else if c.at? ',' then l.comma
  else if l.atIndicator '-' false then l.entry
  else if l.atIndicator '?' true then l.key
  else if l.atIndicator ':' true then l.value
  else if c.at? '*' then l.node fun c => do
    let (name, c) ← Anchor.read .reference c
    return (.reference name, c)
  else if c.at? '&' then l.node fun c => do
    let (name, c) ← Anchor.read .anchor c
    return (.anchor name, c)
  else if c.at? '!' then
    let flow := l.inFlow
    l.node fun c => do
      let (name, c) ← Tag.read flow c
      return (.tag name, c)
  else if c.at? '|' && !l.inFlow then l.block true
  else if c.at? '>' && !l.inFlow then l.block false
  else if c.at? '\'' then l.quoted false
  else if c.at? '"' then l.quoted true
  else if beginsPlain l.inFlow c.rest then l.plain
  else .error (c.fault .noTokenStart .token c.mark)

/-- Read one token further; the answer says whether the text has ended. -/
def advance (l : Layout) : Except Fault (Layout × Bool) := do
  let l ← l.toNext
  if l.cursor.rest.isEmpty then return (← (← l.finish).dropExpired, true)
  else return (← (← l.readHere).dropExpired, false)

end Layout

namespace Tokens

/-- The number of bytes in a block of text. -/
def blockSize : Nat := 16384

/-- The first character that may not stand in a text: the number of characters before its block, and
the number of bytes before it. `room` is what is left of the block that begins behind `before`
characters, `seen` and `offset` count the characters and bytes so far. -/
def firstForbidden (before room seen offset : Nat) : List Char → Option (Nat × Nat)
  | [] => none
  | c :: rest =>
    let size := c.utf8Size
    let (before, room) := if room < size then (seen, blockSize) else (before, room)
    if !isAllowed c then some (before, offset)
    else firstForbidden before (room - size) (seen + 1) (offset + size) rest

/-- Read one token further in a text that cannot be read to its end when there is a barrier. -/
def advanceBefore (barrier : Option Fault) (l : Layout) : Except Fault (Layout × Bool) :=
  match barrier, l.advance with
  | some f, .ok (next, ended) => if next.cursor.rest.isEmpty then .error f else .ok (next, ended)
  | some f, .error (.malformed .endOfText _ _) => .error f
  | _, result => result

/-- The tokens of what is left of a text. -/
def readFrom (barrier : Option Fault) : Nat → Layout → Tokens
  | 0, l => behind l.tokens (.finished l.cursor.mark)
  | fuel + 1, l =>
    match advanceBefore barrier l with
    | .error f => behind l.settledTokens (.broken f)
    | .ok (next, true) => behind next.tokens (.finished next.cursor.mark)
    | .ok (next, false) => readFrom barrier fuel next

/-- The tokens of a text. -/
def ofText (text : List Char) : Tokens :=
  match firstForbidden 0 blockSize 0 0 text with
  | none => readFrom none (text.length + 1) (Layout.start text)
  | some (before, offset) =>
    readFrom (some (.controlCharacter offset)) (before + 1) (Layout.start (text.take before))

end Tokens

end ReleaseGate.Yaml
