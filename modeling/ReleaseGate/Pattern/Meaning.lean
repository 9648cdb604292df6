import ReleaseGate.Pattern.Merging
import ReleaseGate.Pattern.Named
import ReleaseGate.Pattern.Reader
import ReleaseGate.Unicode.Folding

/-!
# The meaning of a pattern — from its tree to its core

The parts are taken from left to right under the flags in force. Flags without a group hold up to the
end of the group around them, across the branches of an alternation. A part that could match text
that is no UTF-8 is refused, which concerns only parts for which Unicode is turned off.

How parts are put together is left open: a text is searched with the core of a pattern as it stands,
and the size of its automata is that of the core with its parts merged.
-/

namespace ReleaseGate.Pattern

open Unicode

/-- The flags in force. -/
structure Flags where
  ignoreCase : Bool
  multiLine : Bool
  dotAll : Bool
  swapGreed : Bool
  unicode : Bool
  crlf : Bool
  deriving Repr, DecidableEq

namespace Flags

/-- The flags at the start of a pattern. -/
def initial : Flags :=
  ⟨false, false, false, false, true, false⟩

/-- The flags after a list of settings. -/
def apply (flags : Flags) (items : List FlagItem) : Flags :=
  let state (f : Flag) (before : Bool) : Bool := (stateOf f true items).getD before
  { ignoreCase := state .ignoreCase flags.ignoreCase
    multiLine := state .multiLine flags.multiLine
    dotAll := state .dotAll flags.dotAll
    swapGreed := state .swapGreed flags.swapGreed
    unicode := state .unicode flags.unicode
    crlf := state .crlf flags.crlf }

/-- The word characters that a boundary goes by. -/
def wordKind (flags : Flags) : WordKind :=
  if flags.unicode then .unicode else .ascii

end Flags

/-- Complain about a part. -/
def refuse {α : Type} (cause : Cause) (span : Span) : Except Complaint α :=
  .error ⟨cause, span, none⟩

/-- A set together with the ASCII letters that differ from a member in case only. -/
def closeAscii (s : CharSet) : CharSet :=
  let letters := (List.range 26).flatMap fun i =>
    let pair := [(0x41 + i, 0x41 + i), (0x61 + i, 0x61 + i)]
    if pair.any fun r => CharSet.within r.1 s.ranges then pair else []
  CharSet.ofRanges (s.ranges ++ letters)

/-- A set as it is without regard to case, if the flags say so. -/
def Flags.fold (flags : Flags) (s : CharSet) : CharSet :=
  if !flags.ignoreCase then s else if flags.unicode then Folding.close s else closeAscii s

/-- A set or its complement. Without Unicode the result must not go beyond ASCII. -/
def Flags.negate (flags : Flags) (span : Span) (negated : Bool) (s : CharSet) :
    Except Complaint CharSet :=
  let s := if negated then s.complement else s
  if flags.unicode || s.isAscii then .ok s else refuse .notUtf8 span

/-- A class by property. -/
def Flags.property (flags : Flags) (span : Span) (name : PropertyName) (negated : Bool) :
    Except Complaint CharSet :=
  if !flags.unicode then refuse .unicodeForbidden span
  else match name.set with
    | .error cause => refuse cause span
    | .ok s =>
      let s := flags.fold s
      .ok (if name.complements negated then s.complement else s)

/-- A one-letter class. -/
def Flags.shorthand (flags : Flags) (span : Span) (name : Shorthand) (negated : Bool) :
    Except Complaint CharSet :=
  flags.negate span negated (if flags.unicode then name.set else name.asciiSet)

/-- A literal inside brackets. -/
def Flags.bound (flags : Flags) (lit : Literal) : Except Complaint Nat :=
  let n := lit.char.toNat
  if flags.unicode || n < 0x80 then .ok n
  else refuse (if lit.byte then .notUtf8 else .unicodeForbidden) lit.span

/-- Two sets joined by an operator. -/
def SetOp.apply (o : SetOp) (a b : CharSet) : CharSet :=
  match o with
  | .intersection => a.inter b
  | .difference => a.diff b
  | .symmetricDifference => a.symmDiff b

mutual

/-- The set of a part of a class. -/
def setOf (flags : Flags) : SetTree → Except Complaint CharSet
  | .empty _ => .ok CharSet.empty
  | .literal lit => do
    let n ← flags.bound lit
    return ⟨[(n, n)]⟩
  | .range _ lo hi => do
    let a ← flags.bound lo
    let b ← flags.bound hi
    return ⟨[(a, b)]⟩
  | .posix span name negated => flags.negate span negated (flags.fold name.set)
  | .property span name negated => flags.property span name negated
  | .shorthand span name negated => flags.shorthand span name negated
  | .bracketed b => setOfBracketed flags b
  | .union _ items => do
    let sets ← setsOf flags items
    return CharSet.unions sets
  | .op _ o lhs rhs => do
    let a ← setOf flags lhs
    let b ← setOf flags rhs
    return o.apply (flags.fold a) (flags.fold b)

/-- The set of a class in brackets. -/
def setOfBracketed (flags : Flags) : Bracketed → Except Complaint CharSet
  | .mk span negated set => do
    let s ← setOf flags set
    flags.negate span negated (flags.fold s)

/-- The sets of several parts. -/
def setsOf (flags : Flags) : List SetTree → Except Complaint (List CharSet)
  | [] => .ok []
  | item :: items => do
    let s ← setOf flags item
    let rest ← setsOf flags items
    return s :: rest

end

/-- A literal outside brackets. -/
def Flags.literal (flags : Flags) (lit : Literal) : Except Complaint Core :=
  if !flags.unicode && lit.byte && 0x80 ≤ lit.char.toNat then refuse .notUtf8 lit.span
  else .ok (.set (flags.fold (CharSet.single lit.char)))

/-- The set of the dot. -/
def Flags.dot (flags : Flags) (span : Span) : Except Complaint Core :=
  if !flags.unicode then refuse .notUtf8 span
  else if flags.dotAll then .ok (.set CharSet.all)
  else if flags.crlf then .ok (.set (CharSet.ofText "A D").complement)
  else .ok (.set (CharSet.single '\n').complement)

/-- The condition of a boundary. -/
def Flags.look (flags : Flags) : Boundary → Look
  | .lineStart =>
    if !flags.multiLine then .textStart else if flags.crlf then .anyLineStart else .lineStart
  | .lineEnd =>
    if !flags.multiLine then .textEnd else if flags.crlf then .anyLineEnd else .lineEnd
  | .textStart => .textStart
  | .textEnd => .textEnd
  | .word => .word flags.wordKind
  | .notWord => .notWord flags.wordKind
  | .wordStart => .wordStart flags.wordKind
  | .wordEnd => .wordEnd flags.wordKind
  | .wordStartHalf => .wordStartHalf flags.wordKind
  | .wordEndHalf => .wordEndHalf flags.wordKind

/-- A core pattern for a set that may be refused. -/
def ofSet (flags : Flags) (s : Except Complaint CharSet) : Except Complaint (Core × Flags) :=
  s.map fun s => (.set s, flags)

mutual

/-- The core of a part under the given flags, and the flags behind it. -/
def coreOf (k : Composer) (flags : Flags) : Tree → Except Complaint (Core × Flags)
  | .empty _ => .ok (.empty, flags)
  | .flags _ items => .ok (.empty, flags.apply items)
  | .literal lit => (flags.literal lit).map fun c => (c, flags)
  | .dot span => (flags.dot span).map fun c => (c, flags)
  | .boundary _ kind => .ok (.look (flags.look kind), flags)
  | .property span name negated => ofSet flags (flags.property span name negated)
  | .shorthand span name negated => ofSet flags (flags.shorthand span name negated)
  | .bracketed b => ofSet flags (setOfBracketed flags b)
  | .repetition _ least most greedy body => do
    let (c, flags) ← coreOf k flags body
    return (Core.repeated least most (greedy != flags.swapGreed) c, flags)
  | .group _ (.capture index) body => do
    let (c, _) ← coreOf k flags body
    return (.group index c, flags)
  | .group _ (.plain items) body => do
    let (c, _) ← coreOf k (flags.apply items) body
    return (c, flags)
  | .alternation _ parts => do
    let (cs, flags) ← coresOf k flags parts
    return (k.branches cs, flags)
  | .sequence _ parts => do
    let (cs, flags) ← coresOf k flags parts
    return (k.sequence cs, flags)

/-- The cores of several parts, each under the flags behind the part before it. -/
def coresOf (k : Composer) (flags : Flags) : List Tree → Except Complaint (List Core × Flags)
  | [] => .ok ([], flags)
  | part :: parts => do
    let (c, flags) ← coreOf k flags part
    let (cs, flags) ← coresOf k flags parts
    return (c :: cs, flags)

end

/-- The core of a whole pattern. -/
def Core.ofTree (k : Composer) (tree : Tree) : Except Complaint Core :=
  (coreOf k Flags.initial tree).map Prod.fst

end ReleaseGate.Pattern
