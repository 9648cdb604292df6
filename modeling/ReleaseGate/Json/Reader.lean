import ReleaseGate.Json.Numeral

/-!
# Reading JSON — a machine that takes one character at a time

The machine keeps the containers it is inside of on a stack and never looks back, so reading is one
pass over the text. Every fault names a byte: the one that cannot stand where it stands, or the end
of the text. At most 127 containers may be open at once.
-/

namespace ReleaseGate.Json

/-- A container that is still open, while a value inside it is read: what came before in it. Lists
grow at the front. -/
inductive Frame where
  | item (before : List Json)
  | member (before : List (String × Json)) (key : String)

/-- What the text being read will be used for. -/
inductive TextUse where
  | value
  | key (before : List (String × Json))

/-- How far the reader is inside an escape. -/
inductive Escape where
  /-- Not in an escape. -/
  | none
  /-- Behind a backslash. -/
  | backslash
  /-- Among the four hexadecimal digits that begin at byte `start`; `first` is the leading surrogate
  that came before, if any. -/
  | hex (start : Nat) (digits : List Char) (bytes : Nat) (first : Option Nat)
  /-- Behind a leading surrogate. -/
  | surrogate (first : Nat)
  /-- Behind a leading surrogate and a backslash. -/
  | surrogateBackslash (first : Nat)

/-- The state of the reader. -/
inductive State where
  /-- A value must begin. -/
  | value (stack : List Frame)
  /-- In a list, behind the bracket or a comma. -/
  | item (before : List Json) (stack : List Frame)
  /-- In a list, behind an item. -/
  | afterItem (before : List Json) (stack : List Frame)
  /-- In an object, behind the brace or a comma. -/
  | key (before : List (String × Json)) (stack : List Frame)
  /-- In an object, behind a key. -/
  | colon (before : List (String × Json)) (key : String) (stack : List Frame)
  /-- In an object, behind a member. -/
  | afterMember (before : List (String × Json)) (stack : List Frame)
  /-- In the word for a fixed value: the letters still to come. -/
  | word (rest : List Char) (result : Json) (stack : List Frame)
  | number (n : Numeral) (stack : List Frame)
  /-- In a string: the characters so far, last first. -/
  | text (use : TextUse) (chars : List Char) (escape : Escape) (stack : List Frame)
  /-- The whole value has been read. -/
  | finished (result : Json)

/-- The most containers that may be open at once. -/
def depthLimit : Nat := 127

/-- The blanks between tokens. -/
def isGap (c : Char) : Bool :=
  c == ' ' || c == '\n' || c == '\t' || c == '\r'

/-- The state after a whole value. -/
def deliver (v : Json) : List Frame → State
  | [] => .finished v
  | .item before :: stack => .afterItem (v :: before) stack
  | .member before key :: stack => .afterMember ((key, v) :: before) stack

/-- A fault at a byte. -/
abbrev FaultAt := Cause × Nat

/-- The state after the first character `c` of a value, which stands at byte `here`. -/
def begin (stack : List Frame) (here : Nat) (c : Char) : Except FaultAt State :=
  if c == 'n' then .ok (.word ['u', 'l', 'l'] .null stack)
  else if c == 't' then .ok (.word ['r', 'u', 'e'] (.bool true) stack)
  else if c == 'f' then .ok (.word ['a', 'l', 's', 'e'] (.bool false) stack)
  else if c == '"' then .ok (.text .value [] .none stack)
  else if c == '[' then
    if depthLimit ≤ stack.length then .error (.tooDeep, here + 1) else .ok (.item [] stack)
  else if c == '\x7b' then
    if depthLimit ≤ stack.length then .error (.tooDeep, here + 1) else .ok (.key [] stack)
  else match Numeral.start c with
    | some n => .ok (.number n stack)
    | none => .error (.expectedValue, here + 1)

/-- The state after a character behind a whole value. -/
def afterValue (s : State) (here : Nat) (c : Char) : Except FaultAt State :=
  if isGap c then .ok s
  else match s with
    | .afterItem before stack =>
      if c == ',' then .ok (.item before stack)
      else if c == ']' then .ok (deliver (.array before.reverse) stack)
      else .error (.expectedListEnd, here + 1)
    | .afterMember before stack =>
      if c == ',' then .ok (.key before stack)
      else if c == '\x7d' then .ok (deliver (ofMembers before.reverse) stack)
      else .error (.expectedObjectEnd, here + 1)
    | _ => .error (.trailingCharacters, here + 1)

/-- The state after a string that ends here. -/
def closeText (use : TextUse) (chars : List Char) (stack : List Frame) : State :=
  let s := String.ofList chars.reverse
  match use with
  | .value => deliver (.string s) stack
  | .key before => .colon before s stack

/-- The character that a one-letter escape stands for. -/
def escaped (c : Char) : Option Char :=
  if c == '"' || c == '\\' || c == '/' then some c
  else if c == 'b' then some '\x08'
  else if c == 'f' then some '\x0c'
  else if c == 'n' then some '\n'
  else if c == 'r' then some '\r'
  else if c == 't' then some '\t'
  else none

/-- The value of a hexadecimal digit. -/
def hexValue (c : Char) : Option Nat :=
  if '0' ≤ c && c ≤ '9' then some (c.toNat - '0'.toNat)
  else if 'a' ≤ c && c ≤ 'f' then some (c.toNat - 'a'.toNat + 10)
  else if 'A' ≤ c && c ≤ 'F' then some (c.toNat - 'A'.toNat + 10)
  else none

/-- The value of hexadecimal digits, the last digit first. -/
def hexNumber : List Char → Option Nat
  | [] => some 0
  | c :: before => do return (← hexNumber before) * 16 + (← hexValue c)

/-- What four hexadecimal digits that end at byte `stop` stand for: a character, or a leading
surrogate that needs its partner. -/
def hexMeaning (stop : Nat) (n : Nat) (first : Option Nat) : Except FaultAt (Char ⊕ Nat) :=
  let trailing := 0xDC00 ≤ n && n ≤ 0xDFFF
  match first with
  | some lead =>
    if trailing then .ok (.inl (Char.ofNat (0x10000 + (lead - 0xD800) * 0x400 + (n - 0xDC00))))
    else .error (.loneSurrogate, stop)
  | none =>
    if trailing then .error (.loneSurrogate, stop)
    else if 0xD800 ≤ n && n ≤ 0xDBFF then .ok (.inr n)
    else .ok (.inl (Char.ofNat n))

/-- The state of a string after one more character. -/
def textStep (use : TextUse) (chars : List Char) (escape : Escape) (stack : List Frame)
    (here : Nat) (c : Char) : Except FaultAt State :=
  match escape with
  | .none =>
    if c == '"' then .ok (closeText use chars stack)
    else if c == '\\' then .ok (.text use chars .backslash stack)
    else if c.toNat < 0x20 then .error (.controlCharacter, here + 1)
    else .ok (.text use (c :: chars) .none stack)
  | .backslash =>
    if c == 'u' then .ok (.text use chars (.hex (here + 1) [] 0 none) stack)
    else match escaped c with
      | some d => .ok (.text use (d :: chars) .none stack)
      | none => .error (.invalidEscape, here + 1)
  | .hex start digits bytes first =>
    let digits := c :: digits
    let bytes := bytes + c.utf8Size
    if bytes < 4 then .ok (.text use chars (.hex start digits bytes first) stack)
    else if digits.length != 4 then .error (.invalidEscape, start + 4)
    else match hexNumber digits with
      | none => .error (.invalidEscape, start + 4)
      | some n => do
        match ← hexMeaning (start + 4) n first with
        | .inl d => return .text use (d :: chars) .none stack
        | .inr lead => return .text use chars (.surrogate lead) stack
  | .surrogate first =>
    if c == '\\' then .ok (.text use chars (.surrogateBackslash first) stack)
    else .error (.cutSurrogate, here + 1)
  | .surrogateBackslash first =>
    if c == 'u' then .ok (.text use chars (.hex (here + 1) [] 0 (some first)) stack)
    else .error (.cutSurrogate, here + 1)

/-- The state after the character `c`, which stands at byte `here`. -/
def step (s : State) (here : Nat) (c : Char) : Except FaultAt State :=
  match s with
  | .value stack => if isGap c then .ok s else begin stack here c
  | .item before stack =>
    if isGap c then .ok s
    else if c == ']' then
      if before.isEmpty then .ok (deliver (.array []) stack)
      else .error (.trailingComma, here + 1)
    else begin (.item before :: stack) here c
  | .key before stack =>
    if isGap c then .ok s
    else if c == '"' then .ok (.text (.key before) [] .none stack)
    else if c == '\x7d' then
      if before.isEmpty then .ok (deliver (.object []) stack)
      else .error (.trailingComma, here + 1)
    else .error (.keyNotString, here + 1)
  | .colon before key stack =>
    if isGap c then .ok s
    else if c == ':' then .ok (.value (.member before key :: stack))
    else .error (.expectedColon, here + 1)
  | .word rest result stack =>
    match rest with
    | [] => .error (.expectedWord, here + 1)
    | [d] => if c == d then .ok (deliver result stack) else .error (.expectedWord, here + 1)
    | d :: rest =>
      if c == d then .ok (.word rest result stack) else .error (.expectedWord, here + 1)
  | .number n stack =>
    match n.step c with
    | .more n => .ok (.number n stack)
    | .wrong cause => .error (cause, here + 1)
    | .stop =>
      match n.finish with
      | .ok v => afterValue (deliver v stack) here c
      | .error cause => .error (cause, here)
  | .text use chars escape stack => textStep use chars escape stack here c
  | .afterItem _ _ | .afterMember _ _ | .finished _ => afterValue s here c

/-- What the end of the text means in a state that is not in the middle of a number. -/
def atEnd : State → Except Cause Json
  | .finished v => .ok v
  | .value _ | .word .. | .number .. => .error .endInValue
  | .item before _ => .error (if before.isEmpty then .endInList else .endInValue)
  | .key before _ => .error (if before.isEmpty then .endInObject else .endInValue)
  | .afterItem .. => .error .endInList
  | .colon .. | .afterMember .. => .error .endInObject
  | .text .. => .error .endInString

/-- The value read when the text ends in the given state. -/
def finish (s : State) : Except Cause Json :=
  match s with
  | .number n stack => do atEnd (deliver (← n.finish) stack)
  | s => atEnd s

/-- Run the machine over the rest of a text that begins at byte `here`. -/
def run (s : State) (here : Nat) : List Char → Except FaultAt Json
  | [] =>
    match finish s with
    | .ok v => .ok v
    | .error cause => .error (cause, here)
  | c :: rest =>
    match step s here c with
    | .ok s => run s (here + c.utf8Size) rest
    | .error fault => .error fault

/-- Read a text that holds one JSON value and blanks. -/
def read (text : String) : Except Fault Json :=
  match run (.value []) 0 text.toList with
  | .ok v => .ok v
  | .error (cause, offset) => .error ⟨cause, Text.positionOf text offset⟩

end ReleaseGate.Json
