import ReleaseGate.Text.Utf8
import ReleaseGate.Yaml.Document
import ReleaseGate.Yaml.Scalar

/-!
# Form — fitting a document to the form that is asked for

A form is fitted event by event. A node that does not fit is shown with the place and the path of the
innermost node for which both are known. Wherever a reference stands, the node that it names is
fitted in its stead.
-/

namespace ReleaseGate.Yaml

/-- How far a document is fitted. -/
structure Progress where
  rest : List (Event Nat × Mark)
  /-- The number of references that have been followed. -/
  followed : Nat
  deriving Repr

/-- A form: it takes the events of one node. -/
abbrev Form (α : Type) := Document → Path → Progress → Except Fault (α × Progress)

/-- Give a misfit a place, unless it has one. -/
def Fault.locate (m : Mark) (path : Path) : Fault → Fault
  | .misfit reason none => .misfit reason (some (m, path))
  | f => f

namespace Form

/-- A misfit whose place is not known yet. -/
def misfit {α : Type} (reason : Misfit) : Except Fault α :=
  .error (.misfit reason none)

/-- The number of references that may be followed for each event of a document. -/
def referencesPerEvent : Nat := 100

/-- The next event. -/
def next (d : Document) (p : Progress) : Except Fault (Event Nat × Mark × Progress) :=
  match p.rest with
  | (e, m) :: rest => .ok (e, m, { p with rest := rest })
  | [] => .error (d.fault.getD .noDocument)

/-- Follow a reference: the progress at the node that it names. -/
def follow (d : Document) (p : Progress) (n : Nat) : Except Fault Progress :=
  if d.events.length * referencesPerEvent < p.followed + 1 then .error .tooManyRepetitions
  else .ok ⟨d.target n, p.followed + 1⟩

/-- What a form makes of one event and what follows it. -/
abbrev Reader (α : Type) := Event Nat → Mark → Progress → Except Fault (α × Progress)

/-- Take one event, and in place of a reference the event that it names. -/
def taking {α : Type} (read : Document → Path → Reader α) : Form α := fun d path p => do
  let (e, m, p) ← next d p
  let result : Except Fault (α × Progress) := do
    match e with
    | .reference n =>
      let (e, m, q) ← next d (← follow d p n)
      let (a, q) ← (read d path e m q).mapError (Fault.locate m path)
      return (a, { p with followed := q.followed })
    | e => read d path e m p
  result.mapError (Fault.locate m path)

/-- The misfit of an event that begins no node of the form. -/
def wrongKind {α : Type} (expected : String) : Event Nat → Except Fault α
  | .scalar tag text plain => misfit (Scalar.misfit tag text plain expected)
  | .sequence _ => misfit (.kind .sequence expected)
  | .mapping _ => misfit (.kind .mapping expected)
  | _ => .error .noDocument

/-- A text: any scalar is one, as it is written. -/
def text (expected : String) : Form String :=
  taking fun _ _ e _ p =>
    match e with
    | .scalar _ text _ => .ok (String.ofList text, p)
    | e => wrongKind expected e

/-- Pass over one node; `depth` is the number of collections that are open. -/
def ignoreFrom (d : Document) (depth : Nat) :
    List (Event Nat × Mark) → Except Fault (List (Event Nat × Mark))
  | [] => .error (d.fault.getD .noDocument)
  | (e, _) :: rest =>
    match e with
    | .sequence _ | .mapping _ => ignoreFrom d (depth + 1) rest
    | .sequenceEnd | .mappingEnd => if depth ≤ 1 then .ok rest else ignoreFrom d (depth - 1) rest
    | _ => if depth == 0 then .ok rest else ignoreFrom d depth rest

/-- Pass over one node. References are not followed. -/
def ignored : Form Unit := fun d _ p => do
  return ((), { p with rest := ← ignoreFrom d 0 p.rest })

/-- The entries of a sequence up to its end, the first of which has the given index. -/
def entriesFrom {α : Type} (entry : Form α) (d : Document) (path : Path) :
    Nat → Nat → Progress → Except Fault (List α × Progress)
  | 0, _, _ => .error .noDocument
  | fuel + 1, index, p => do
    match ← next d p with
    | (.sequenceEnd, _, p) => return ([], p)
    | _ =>
      let (a, p) ← entry d (path ++ [.item index]) p
      let (more, p) ← entriesFrom entry d path fuel (index + 1) p
      return (a :: more, p)

/-- A sequence of nodes of one form. An empty scalar stands for an empty sequence. -/
def sequence {α : Type} (expected : String) (entry : Form α) : Form (List α) :=
  taking fun d path e _ p =>
    match e with
    | .sequence _ => entriesFrom entry d path (p.rest.length + 1) 0 p
    | .scalar _ [] true => .ok ([], p)
    | .nothing => .ok ([], p)
    | e => wrongKind expected e

/-- The name by which a path shows the value behind a key. -/
def stepOf : Event Nat → PathStep
  | .scalar _ text _ => .member (String.ofList text)
  | _ => .unnamed

/-- What a mapping is read into, member by member: the member's name, its value and what has been
read so far. -/
abbrev MemberOf (σ : Type) := String → σ → Form σ

/-- The members of a mapping up to its end. -/
def membersFrom {σ : Type} (member : MemberOf σ) (d : Document) (path : Path) :
    Nat → σ → Progress → Except Fault (σ × Progress)
  | 0, _, _ => .error .noDocument
  | fuel + 1, read, p => do
    match ← next d p with
    | (.mappingEnd, _, p) => return (read, p)
    | (e, _, _) =>
      let (key, p) ← text "field identifier" d path p
      let (read, p) ← member key read d (path ++ [stepOf e]) p
      membersFrom member d path fuel read p

/-- A mapping whose members are read one by one and then checked. An empty scalar stands for an empty
mapping. -/
def mapping {σ α : Type} (expected : String) (empty : σ) (member : MemberOf σ)
    (finish : σ → Except Fault α) : Form α :=
  taking fun d path e _ p => do
    match e with
    | .mapping _ =>
      let (read, p) ← membersFrom member d path (p.rest.length + 1) empty p
      return (← finish read, p)
    | .scalar _ [] true => return (← finish empty, p)
    | .nothing => return (← finish empty, p)
    | e => wrongKind expected e

/-- The first value for a member; a second one is a misfit. -/
def once {α σ : Type} (name : String) (before : Option α) (value : Form α) (keep : α → σ) :
    Form σ := fun d path p => do
  if before.isSome then misfit (.repeatedField name)
  else
    let (a, p) ← value d path p
    return (keep a, p)

/-- The value of a member that may not be missing. -/
def required {α : Type} (name : String) (value : Option α) : Except Fault α :=
  match value with
  | some a => .ok a
  | none => misfit (.missingField name)

/-- The word that a tag of the document's own gives. -/
def tagWord (tag : Option TagText) : Option String :=
  match tag with
  | some (mark :: rest) =>
    if mark != 0x21 then none else Text.decode? (if rest.isEmpty then [mark] else rest)
  | _ => none

/-- One of some words. -/
def wordAmong {α : Type} (known : List (String × α)) (word : String) : Except Fault α :=
  match known.lookup word with
  | some a => .ok a
  | none => misfit (.unknownWord word (known.map Prod.fst))

/-- The node behind a tag that says all: nothing. -/
def nothing : Form Unit :=
  taking fun _ _ e _ p =>
    match e with
    | .scalar _ text plain =>
      if plain && (text.isEmpty || Scalar.isNull text) then .ok ((), p)
      else misfit (.value (.text (String.ofList text)) "null")
    | e => wrongKind "unit" e

/-- A word, as the tag of a node that says nothing. -/
def tagged {α : Type} (known : List (String × α)) (word : String) : Form α := fun d path p => do
  let a ← wordAmong known word
  let ((), p) ← nothing d path p
  return (a, p)

/-- A word, written out or as a tag. A misfit of a tag that is not known is shown at the place of the
node around it. -/
def wordHere {α : Type} (known : List (String × α)) : Form α := fun d path p => do
  let (e, m, after) ← next d p
  let untagged : Except Fault (α × Progress) :=
    match e with
    | .scalar _ text _ => do return (← wordAmong known (String.ofList text), after)
    | e => wrongKind "a YAML tag starting with '!'" e
  match e with
  | .scalar tag _ _ | .sequence tag | .mapping tag =>
    match tagWord tag with
    | some word => tagged known word d path p
    | none => untagged.mapError (Fault.locate m path)
  | _ => untagged

/-- A word, written out or as a tag, or a reference to one. -/
def word {α : Type} (known : List (String × α)) : Form α := fun d path p => do
  match ← next d p with
  | (.reference n, m, p) =>
    let target ← follow d p n
    let (a, q) ← (wordHere known d path target).mapError (Fault.locate m path)
    return (a, { p with followed := q.followed })
  | _ => wordHere known d path p

/-- What a form makes of the only document of a text. -/
def readText {α : Type} (form : Form α) (text : List Char) : Except Fault α := do
  let d := Document.ofText text
  let (a, _) ← form d [] ⟨d.events, 0⟩
  match d.fault with
  | some f => throw f
  | none => if d.more then throw .moreThanOneDocument else return a

end Form

end ReleaseGate.Yaml
