import ReleaseGate.Yaml.Token

/-!
# Tags and anchors — the properties written in front of a node

A tag begins with an exclamation mark. Its text may name octets by a percent sign and two
hexadecimal digits; octets beyond ASCII have to come in groups of the length that the first one
announces. An octet of zero ends the text of a tag.
-/

namespace ReleaseGate.Yaml

namespace Tag

/-- Where a tag is read: in front of a node or in a directive. -/
inductive Place where
  | node
  | directive
  deriving Repr, DecidableEq

/-- The construct named when a tag's text is wrong. -/
def Place.construct : Place → Construct
  | node => .tagUri
  | directive => .prefixOfDirective

/-- A character of a tag's text; `wide` texts may hold flow indicators. -/
def isTagChar (wide : Bool) (c : Char) : Bool :=
  isNameChar c || ";/?:@&=+$.%!~*'()".toList.contains c || (wide && ",[]".toList.contains c)

/-- The octet that a percent sign and two digits name. -/
def octet? : List Char → Option Nat
  | '%' :: a :: b :: _ => do return (← hexValue? a) * 16 + (← hexValue? b)
  | _ => none

/-- The number of octets in a group by its first octet. -/
def groupLength (octet : Nat) : Option Nat :=
  if octet < 0x80 then some 1
  else if octet < 0xC0 then none
  else if octet < 0xE0 then some 2
  else if octet < 0xF0 then some 3
  else if octet < 0xF8 then some 4
  else none

/-- Read so many further octets of a group. -/
def readTrailing (place : Place) (start : Mark) : Nat → Cursor → Except Fault (List UInt8 × Cursor)
  | 0, c => .ok ([], c)
  | count + 1, c =>
    match octet? c.rest with
    | none => .error (c.fault .noEscapedOctet place.construct start)
    | some n =>
      if n / 0x40 != 2 then .error (c.fault .wrongTrailingOctet place.construct start)
      else do
        let (more, c) ← readTrailing place start count (c.skip 3)
        return (UInt8.ofNat n :: more, c)

/-- Read one group of octets. -/
def readGroup (place : Place) (start : Mark) (c : Cursor) : Except Fault (List UInt8 × Cursor) :=
  match octet? c.rest with
  | none => .error (c.fault .noEscapedOctet place.construct start)
  | some n =>
    match groupLength n with
    | none => .error (c.fault .wrongLeadingOctet place.construct start)
    | some length => do
      let (more, c) ← readTrailing place start (length - 1) (c.skip 3)
      return (UInt8.ofNat n :: more, c)

/-- Read the text of a tag as far as it goes. -/
def readText (wide : Bool) (place : Place) (start : Mark) :
    Nat → Cursor → Except Fault (List UInt8 × Cursor)
  | 0, c => .ok ([], c)
  | fuel + 1, c =>
    match c.rest with
    | '%' :: _ => do
      let (group, c) ← readGroup place start c
      let (more, c) ← readText wide place start fuel c
      return (group ++ more, c)
    | x :: _ =>
      if isTagChar wide x then do
        let (more, c) ← readText wide place start fuel (c.skip 1)
        return (UInt8.ofNat x.toNat :: more, c)
      else .ok ([], c)
    | [] => .ok ([], c)

/-- Read the text of a tag behind what is already known of it. Nothing at all is a fault. -/
def readUri (wide : Bool) (place : Place) (start : Mark) (known : List Char) (c : Cursor) :
    Except Fault (List UInt8 × Cursor) := do
  let (text, next) ← readText wide place start (c.rest.length + 1) c
  if known.isEmpty && next.index == c.index then
    throw (next.fault .noTagUri place.construct start)
  let octets := (known.drop 1).map (fun x => UInt8.ofNat x.toNat) ++ text
  return (octets.takeWhile (· != 0), next)

/-- Read the handle of a tag: an exclamation mark, a name, and a second mark if it is there. -/
def readHandle (place : Place) (start : Mark) (c : Cursor) : Except Fault (List Char × Cursor) :=
  if !c.at? '!' then
    .error (c.fault .noTagMark (if place == .directive then .handleOfDirective else .tag) start)
  else
    let (name, next) := (c.skip 1).span isNameChar
    if next.at? '!' then .ok ('!' :: (name ++ ['!']), next.skip 1)
    else if place == .directive && !name.isEmpty then
      .error (next.fault .noTagMark .handleEndOfDirective start)
    else .ok ('!' :: name, next)

/-- ASCII characters as octets. -/
def octets (cs : List Char) : List UInt8 :=
  cs.map fun c => UInt8.ofNat c.toNat

/-- Read a tag without looking at what follows it. -/
def readName (c : Cursor) : Except Fault (TagName × Cursor) := do
  let start := c.mark
  if (c.skip 1).at? '<' then
    let (suffix, c) ← readUri true .node start [] (c.skip 2)
    if !c.at? '>' then throw (c.fault .noTagClose .tag start)
    return (⟨[], suffix⟩, c.skip 1)
  else
    let (handle, c) ← readHandle .node start c
    if 2 ≤ handle.length && handle.getLast? == some '!' then
      let (suffix, c) ← readUri false .node start [] c
      return (⟨octets handle, suffix⟩, c)
    else
      let (suffix, c) ← readUri false .node start handle c
      if suffix.isEmpty then return (⟨[], octets ['!']⟩, c)
      else return (⟨octets ['!'], suffix⟩, c)

/-- Read the tag that is next. -/
def read (flow : Bool) (c : Cursor) : Except Fault (TagName × Cursor) := do
  let (name, next) ← readName c
  if !(flow && next.at? ',') && !gapOrEnd next.rest then
    throw (next.fault .noBlankOrLineEnd .tag c.mark)
  return (name, next)

end Tag

namespace Anchor

/-- May these characters stand behind the name of an anchor? -/
def ends (rest : List Char) : Bool :=
  match rest with
  | [] => true
  | c :: _ => isGap c || "?:,]\x7d%@\x60".toList.contains c

/-- Read the name of an anchor or of a reference to one behind the indicator that is next. -/
def read (construct : Construct) (c : Cursor) : Except Fault (List Char × Cursor) :=
  let (name, next) := (c.skip 1).span isNameChar
  if name.isEmpty || !ends next.rest then
    .error (next.fault .noAnchorCharacter construct c.mark)
  else .ok (name, next)

end Anchor

end ReleaseGate.Yaml
