import ReleaseGate.Yaml.Cursor

/-!
# Plain scalars — text without quotes

A plain scalar ends before a comment, before a colon with a gap behind it, before a line that is
indented too little or marks a document, and in a flow collection before an indicator of it. Its
words are joined as the gaps between them say.
-/

namespace ReleaseGate.Yaml.Plain

/-- The indicators that end a plain scalar in a flow collection. -/
def isFlowIndicator (c : Char) : Bool :=
  c == ',' || c == '[' || c == ']' || c == '{' || c == '}'

/-- A colon with an indicator of a flow collection right behind it. -/
def clashes (flow : Bool) : List Char → Bool
  | ':' :: c :: _ => flow && (isFlowIndicator c || c == '?')
  | _ => false

/-- Does a word end before these characters? -/
def stops (flow : Bool) : List Char → Bool
  | [] => true
  | c :: rest => isGap c || (c == ':' && gapOrEnd rest) || (flow && isFlowIndicator c)

/-- The word that comes next. -/
def word (flow : Bool) : List Char → List Char
  | [] => []
  | c :: rest =>
    if stops flow (c :: rest) || clashes flow (c :: rest) then [] else c :: word flow rest

/-- The place of a tab in a gap that stands before the margin of a line. -/
def strayTab (margin : Nat) (broken : Bool) (m : Mark) : List Char → Option Mark
  | [] => none
  | '\r' :: '\n' :: rest => strayTab margin true m.nextLine rest
  | c :: rest =>
    if isBreak c then strayTab margin true m.nextLine rest
    else if broken && m.column < margin && c == '\t' then some m
    else strayTab margin broken m.right rest

/-- A plain scalar that was read. -/
structure Read where
  text : List Char
  /-- Was a line break read behind the last word? -/
  broken : Bool
  rest : Cursor
  deriving Repr

/-- Does the scalar end here, behind a gap? -/
def endsAt (flow : Bool) (margin : Nat) (c : Cursor) : Bool :=
  (!flow && c.mark.column < margin) || c.atDocumentMark || c.at? '#' || stops flow c.rest

/-- Read on behind a word. -/
def readMore (flow : Bool) (margin : Nat) (start : Mark) : Nat → Cursor → Except Fault Read
  | 0, c => .ok ⟨[], false, c⟩
  | fuel + 1, c =>
    if clashes flow c.rest then .error (c.fault .strayColon .plainScalar start)
    else
      let (gap, next) := c.span isGap
      match strayTab margin false c.mark gap with
      | some m => .error (.malformed .tabBreaksIndent m (some (.plainScalar, start)))
      | none =>
        if gap.isEmpty || endsAt flow margin next then
          .ok ⟨[], !(breaksOf gap).isEmpty, next⟩
        else do
          let text := word flow next.rest
          let more ← readMore flow margin start fuel (next.past text)
          return { more with text := foldGap gap ++ text ++ more.text }

/-- Read a plain scalar whose lines begin at the margin or behind it. -/
def read (flow : Bool) (margin : Nat) (c : Cursor) : Except Fault Read := do
  let text := word flow c.rest
  let more ← readMore flow margin c.mark (c.rest.length + 1) (c.past text)
  return { more with text := text ++ more.text }

end ReleaseGate.Yaml.Plain
