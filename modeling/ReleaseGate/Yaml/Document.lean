import ReleaseGate.Yaml.Event

/-!
# YAML documents — events with their references looked up

An anchor gets the number of different anchors before it, and a reference the number that its anchor
has by then. What a number stands for is looked up when the whole document has been read: the last
node that got it.
-/

namespace ReleaseGate.Yaml

/-- The first document of a text. -/
structure Document where
  events : List (Event Nat × Mark)
  /-- The positions of the nodes with numbers, the last one first. -/
  targets : List (Nat × Nat)
  /-- What is wrong with the text behind the events. -/
  fault : Option Fault
  /-- Does the text hold more than the document? -/
  more : Bool
  deriving Repr

namespace Document

/-- Anchors with their numbers. -/
abbrev Anchors := List (List Char × Nat)

/-- Give an anchor its number. -/
def number (anchors : Anchors) (name : List Char) : Anchors :=
  (name, anchors.length) :: anchors.filter fun a => a.1 != name

/-- An event with its reference looked up. -/
def resolve (anchors : Anchors) (o : Occurrence) : Except Fault (Event Nat) :=
  match o.event with
  | .nothing => .ok .nothing
  | .reference name =>
    match anchors.lookup name with
    | some n => .ok (.reference n)
    | none => .error (.unknownAnchor o.mark)
  | .scalar tag text plain => .ok (.scalar tag text plain)
  | .sequence tag => .ok (.sequence tag)
  | .sequenceEnd => .ok .sequenceEnd
  | .mapping tag => .ok (.mapping tag)
  | .mappingEnd => .ok .mappingEnd

/-- Look up the references of events, the first of which is at the given position. -/
def load (anchors : Anchors) (position : Nat) : List Occurrence → Document
  | [] => ⟨[], [], none, false⟩
  | o :: rest =>
    match resolve anchors o with
    | .error f => ⟨[], [], some f, false⟩
    | .ok event =>
      match o.anchor with
      | none =>
        let d := load anchors (position + 1) rest
        { d with events := (event, o.mark) :: d.events }
      | some name =>
        let d := load (number anchors name) (position + 1) rest
        { d with
          events := (event, o.mark) :: d.events
          targets := d.targets ++ [(anchors.length, position)] }

/-- The document that an outline tells. -/
def ofOutline (o : Outline) : Document :=
  let d := load [] 0 o.occurrences
  match d.fault, o.rest with
  | some _, _ => d
  | none, .error f => { d with fault := some f }
  | none, .ok (.broken f) => { d with fault := some f }
  | none, .ok rest => { d with more := !Outline.nothingIn rest }

/-- The first document of a text. -/
def ofText (text : List Char) : Document :=
  let tokens := Tokens.ofText text
  match Outline.first? tokens with
  | some o => ofOutline o
  | none => ⟨[(.nothing, tokens.mark)], [], none, false⟩

/-- The events from the node on that a number stands for. -/
def target (d : Document) (n : Nat) : List (Event Nat × Mark) :=
  match d.targets.lookup n with
  | some position => d.events.drop position
  | none => []

end Document

end ReleaseGate.Yaml
