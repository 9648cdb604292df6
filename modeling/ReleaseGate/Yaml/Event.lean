import ReleaseGate.Yaml.Token.Stream

/-!
# YAML events — the nodes of a document in the order in which they are written

A document is told as a walk over its nodes: scalars and references one by one, collections by their
start and end. What may come next is kept as a stack of expectations. A missing node is an empty
scalar.
-/

namespace ReleaseGate.Yaml

/-- A tag in full. -/
abbrev TagText := List UInt8

/-- One step of the walk; `ρ` is what a reference is given by. -/
inductive Event (ρ : Type) where
  /-- There is no node at all. -/
  | nothing
  | reference (target : ρ)
  | scalar (tag : Option TagText) (text : List Char) (plain : Bool)
  | sequence (tag : Option TagText)
  | sequenceEnd
  | mapping (tag : Option TagText)
  | mappingEnd
  deriving Repr, DecidableEq

/-- What may come next. The marks are those of the starts of collections. -/
inductive Expectation where
  /-- The node of a document. -/
  | root
  /-- The node of a document behind its start, where it may be missing. -/
  | content
  | blockEntry (start : Mark)
  /-- An entry of a block sequence that is indented no further than the mapping around it. -/
  | flushEntry
  | blockKey (start : Mark)
  | blockValue (start : Mark)
  | flowEntry (start : Mark) (first : Bool)
  /-- The key of a mapping with one member in a flow sequence. -/
  | pairKey
  | pairValue
  | pairEnd
  | flowKey (start : Mark) (first : Bool)
  | flowValue (start : Mark)
  /-- The value behind a key without a colon. -/
  | flowMissingValue (start : Mark)
  deriving Repr, DecidableEq

/-- An event with its place, and the anchor of the node that begins with it. -/
structure Occurrence where
  event : Event (List Char)
  mark : Mark
  anchor : Option (List Char)
  deriving Repr, DecidableEq

/-- An event, what may come behind it, and the tokens that are left. -/
structure Step where
  occurrence : Occurrence
  expected : List Expectation
  rest : Tokens
  deriving Repr

/-- Handles of tags with what they stand for. -/
abbrev Handles := List (List UInt8 × List UInt8)

/-- ASCII text as octets. -/
private def octets (text : String) : List UInt8 :=
  Tag.octets text.toList

/-- The prefix of the tags that the format itself defines. -/
def standardPrefix : TagText :=
  octets "tag:yaml.org,2002:"

/-- The handles that need no directive. -/
def standardHandles : Handles :=
  [(octets "!", octets "!"), (octets "!!", standardPrefix)]

namespace Step

/-- An empty scalar. -/
def empty (m : Mark) (expected : List Expectation) (rest : Tokens) : Step :=
  ⟨⟨.scalar none [] true, m, none⟩, expected, rest⟩

/-- An event of its own. -/
def plain (event : Event (List Char)) (m : Mark) (expected : List Expectation) (rest : Tokens) :
    Step :=
  ⟨⟨event, m, none⟩, expected, rest⟩

end Step

/-- What is written in front of a node. -/
structure Properties where
  anchor : Option (List Char)
  tag : Option (TagName × Mark)
  /-- The place of the first property, or of the node without one. -/
  start : Mark
  rest : Tokens
  deriving Repr

/-- Read the properties of a node, in either order. -/
def Properties.read (ts : Tokens) : Properties :=
  match ts with
  | .cons (.anchor a) m (.cons (.tag t) mt rest) => ⟨some a, some (t, mt), m, rest⟩
  | .cons (.anchor a) m rest => ⟨some a, none, m, rest⟩
  | .cons (.tag t) m (.cons (.anchor a) _ rest) => ⟨some a, some (t, m), m, rest⟩
  | .cons (.tag t) m rest => ⟨none, some (t, m), m, rest⟩
  | ts => ⟨none, none, ts.mark, ts⟩

/-- The full text of the tag of a node. -/
def Properties.tagText (handles : Handles) (p : Properties) : Except Fault (Option TagText) :=
  match p.tag with
  | none => .ok none
  | some (name, m) =>
    if name.handle.isEmpty then .ok (some name.suffix)
    else match handles.lookup name.handle with
      | some start => .ok (some (start ++ name.suffix))
      | none => .error (.malformed .undefinedTagHandle m (some (.node, p.start)))

/-- Where a node stands: in a block, in a block as the key or value of a mapping, or in a flow
collection. -/
inductive Around where
  | block
  | member
  | flow
  deriving Repr, DecidableEq

/-- Read the start of a node. -/
def Step.node (handles : Handles) (around : Around) (expected : List Expectation) (ts : Tokens) :
    Except Fault Step :=
  match ts with
  | .cons (.reference name) m rest => .ok (Step.plain (.reference name) m expected rest)
  | ts =>
    let p := Properties.read ts
    match p.rest with
    | .broken f => .error f
    | rest => do
      let tag ← p.tagText handles
      let step (event : Event (List Char)) (inner : List Expectation) (left : Tokens) : Step :=
        ⟨⟨event, p.start, p.anchor⟩, inner ++ expected, left⟩
      match rest, around with
      | .cons (.scalar text plain) _ left, _ =>
        let tag := if tag == some (Tag.octets ['!']) then none else tag
        return step (.scalar tag text plain) [] left
      | .cons .flowSequence m left, _ => return step (.sequence tag) [.flowEntry m true] left
      | .cons .flowMapping m left, _ => return step (.mapping tag) [.flowKey m true] left
      | .cons .entry _ _, .member => return step (.sequence tag) [.flushEntry] rest
      | .cons .blockSequence m left, .block => return step (.sequence tag) [.blockEntry m] left
      | .cons .blockSequence m left, .member => return step (.sequence tag) [.blockEntry m] left
      | .cons .blockMapping m left, .block => return step (.mapping tag) [.blockKey m] left
      | .cons .blockMapping m left, .member => return step (.mapping tag) [.blockKey m] left
      | rest, _ =>
        if p.anchor.isSome || tag.isSome then return step (.scalar tag [] true) [] rest
        else
          let construct := if around == .flow then Construct.flowNode else .blockNode
          throw (.malformed .noNodeContent rest.mark (some (construct, p.start)))

namespace Token

/-- A token that leaves the node before it empty in a block sequence. -/
def endsEntry (t : Token) : Bool :=
  t == .entry || t == .blockEnd

/-- A token that leaves the node before it empty in a block mapping. -/
def endsMember (t : Token) : Bool :=
  t == .key || t == .value || t == .blockEnd

/-- A token that leaves the entry before it empty in a sequence that is not indented. -/
def endsFlushEntry (t : Token) : Bool :=
  t == .entry || t.endsMember

/-- A token that leaves the value before it empty in a flow sequence. -/
def endsPairValue (t : Token) : Bool :=
  t == .comma || t == .flowSequenceEnd

/-- A token that leaves the key before it empty in a flow sequence. -/
def endsPairKey (t : Token) : Bool :=
  t == .value || t.endsPairValue

/-- A token that leaves the value before it empty in a flow mapping. -/
def endsFlowValue (t : Token) : Bool :=
  t == .comma || t == .flowMappingEnd

/-- A token that leaves the key before it empty in a flow mapping. -/
def endsFlowKey (t : Token) : Bool :=
  t == .value || t.endsFlowValue

/-- A token that can only stand between documents. -/
def endsDocument (t : Token) : Bool :=
  match t with
  | version _ _ | tagPrefix _ _ | documentStart | documentEnd => true
  | _ => false

end Token

namespace Step

/-- A node, or an empty scalar at the given place when a token shows that the node is missing. -/
def optionalNode (handles : Handles) (around : Around) (isMissing : Token → Bool) (m : Mark)
    (expected : List Expectation) (ts : Tokens) : Except Fault Step := do
  if ← ts.next isMissing then return empty m expected ts
  else node handles around expected ts

/-- The next entry of a flow sequence. -/
private def flowEntry (handles : Handles) (start : Mark) (below : List Expectation) (ts : Tokens) :
    Except Fault Step :=
  match ts with
  | .cons .flowSequenceEnd m rest => .ok (plain .sequenceEnd m below rest)
  | .cons .key m rest =>
    .ok (plain (.mapping none) m (.pairKey :: .flowEntry start false :: below) rest)
  | ts => node handles .flow (.flowEntry start false :: below) ts

/-- The next key of a flow mapping. -/
private def flowKey (handles : Handles) (start : Mark) (below : List Expectation) (ts : Tokens) :
    Except Fault Step :=
  match ts with
  | .cons .flowMappingEnd m rest => .ok (plain .mappingEnd m below rest)
  | .cons .key _ rest =>
    optionalNode handles .flow Token.endsFlowKey rest.mark (.flowValue start :: below) rest
  | ts => node handles .flow (.flowMissingValue start :: below) ts

/-- The next event where something is expected. -/
def next (handles : Handles) (e : Expectation) (below : List Expectation) (ts : Tokens) :
    Except Fault Step :=
  match e, ts with
  | _, .broken f => .error f
  | .root, ts => node handles .block below ts
  | .content, .finished m => .ok (empty m below ts)
  | .content, ts => optionalNode handles .block Token.endsDocument ts.mark below ts
  | .blockEntry start, .cons .entry m rest =>
    optionalNode handles .block Token.endsEntry m.right (.blockEntry start :: below) rest
  | .blockEntry _, .cons .blockEnd m rest => .ok (plain .sequenceEnd m below rest)
  | .blockEntry start, ts => .error (.malformed .noDash ts.mark (some (.blockSequence, start)))
  | .flushEntry, .cons .entry m rest =>
    optionalNode handles .block Token.endsFlushEntry m.right (.flushEntry :: below) rest
  | .flushEntry, ts => .ok (plain .sequenceEnd ts.mark below ts)
  | .blockKey start, .cons .key m rest =>
    optionalNode handles .member Token.endsMember m.right (.blockValue start :: below) rest
  | .blockKey _, .cons .blockEnd m rest => .ok (plain .mappingEnd m below rest)
  | .blockKey start, ts => .error (.malformed .noKey ts.mark (some (.blockMapping, start)))
  | .blockValue start, .cons .value m rest =>
    optionalNode handles .member Token.endsMember m.right (.blockKey start :: below) rest
  | .blockValue start, ts => .ok (empty ts.mark (.blockKey start :: below) ts)
  | .flowEntry start true, ts => flowEntry handles start below ts
  | .flowEntry start false, .cons .comma _ rest => flowEntry handles start below rest
  | .flowEntry _ false, .cons .flowSequenceEnd m rest => .ok (plain .sequenceEnd m below rest)
  | .flowEntry start false, ts =>
    .error (.malformed .noCommaOrBracket ts.mark (some (.flowSequence, start)))
  | .pairKey, .cons t m rest =>
    if t.endsPairKey then .ok (empty m.right (.pairValue :: below) rest)
    else node handles .flow (.pairValue :: below) ts
  | .pairKey, ts => node handles .flow (.pairValue :: below) ts
  | .pairValue, .cons .value _ rest =>
    optionalNode handles .flow Token.endsPairValue rest.mark (.pairEnd :: below) rest
  | .pairValue, ts => .ok (empty ts.mark (.pairEnd :: below) ts)
  | .pairEnd, ts => .ok (plain .mappingEnd ts.mark below ts)
  | .flowKey start true, ts => flowKey handles start below ts
  | .flowKey start false, .cons .comma _ rest => flowKey handles start below rest
  | .flowKey _ false, .cons .flowMappingEnd m rest => .ok (plain .mappingEnd m below rest)
  | .flowKey start false, ts =>
    .error (.malformed .noCommaOrBrace ts.mark (some (.flowMapping, start)))
  | .flowValue start, .cons .value _ rest =>
    optionalNode handles .flow Token.endsFlowValue rest.mark (.flowKey start false :: below) rest
  | .flowValue start, ts => .ok (empty ts.mark (.flowKey start false :: below) ts)
  | .flowMissingValue start, ts => .ok (empty ts.mark (.flowKey start false :: below) ts)

end Step

/-- The events of a document, and what is left behind it unless a fault ends it early. -/
structure Outline where
  occurrences : List Occurrence
  rest : Except Fault Tokens
  deriving Repr

namespace Outline

/-- The events from a place on. -/
def readFrom (handles : Handles) : Nat → List Expectation → Tokens → Outline
  | 0, _, ts => ⟨[], .ok ts⟩
  | _ + 1, [], ts => ⟨[], .ok ts⟩
  | fuel + 1, e :: below, ts =>
    match Step.next handles e below ts with
    | .error f => ⟨[], .error f⟩
    | .ok step =>
      let more := readFrom handles fuel step.expected step.rest
      { more with occurrences := step.occurrence :: more.occurrences }

/-- Read the directives before a document. -/
def readDirectives (versioned : Bool) (handles : Handles) :
    Tokens → Except Fault (Handles × Tokens)
  | .cons (.version major minor) m rest =>
    if versioned then .error (.malformed .repeatedVersion m none)
    else if major != 1 || (minor != 1 && minor != 2) then
      .error (.malformed .incompatibleVersion m none)
    else readDirectives true handles rest
  | .cons (.tagPrefix handle content) m rest =>
    if (handles.lookup handle).isSome then .error (.malformed .repeatedTagHandle m none)
    else readDirectives versioned (handles ++ [(handle, content)]) rest
  | .broken f => .error f
  | ts => .ok (handles, ts)

/-- Read the first line of a document that has one. -/
def readStart (ts : Tokens) : Except Fault (Handles × Tokens) := do
  match ← readDirectives false [] ts with
  | (handles, .cons .documentStart _ rest) => return (handles ++ standardHandles, rest)
  | (_, ts) => throw (.malformed .noDocumentStart ts.mark none)

/-- The most events that tokens can give: each token begins a node or an end, and a node between
tokens may be missing. -/
def mostEvents (ts : Tokens) : Nat :=
  4 * ts.count + 4

/-- The first document of a text; none in an empty one. -/
def first? (ts : Tokens) : Option Outline :=
  match ts with
  | .finished _ => none
  | .broken f => some ⟨[], .error f⟩
  | .cons t _ _ =>
    if t.endsDocument && t != .documentEnd then
      match readStart ts with
      | .error f => some ⟨[], .error f⟩
      | .ok (handles, rest) => some (readFrom handles (mostEvents ts) [.content] rest)
    else some (readFrom standardHandles (mostEvents ts) [.root] ts)

/-- Do tokens behind a document hold nothing but marks of its end? -/
def nothingIn : Tokens → Bool
  | .cons .documentEnd _ rest => nothingIn rest
  | .finished _ => true
  | _ => false

end Outline

end ReleaseGate.Yaml
