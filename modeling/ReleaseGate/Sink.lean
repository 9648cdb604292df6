import ReleaseGate.Text.Utf8

/-!
# Sinks — where a report is written to

A sink takes bytes up to a limit, if it has one: what fits is written and the rest is lost. Flushing
may fail as well.
-/

namespace ReleaseGate

/-- Where a report is written to. -/
structure Sink where
  written : List UInt8
  /-- The number of bytes that the sink takes in all. -/
  limit : Option Nat
  flushFails : Bool
  deriving Repr, DecidableEq

namespace Sink

/-- A sink that takes everything. -/
def unlimited : Sink := ⟨[], none, false⟩

/-- The reason given when no more bytes are taken. -/
def limitReason : String := "write limit reached"

/-- The reason given when flushing fails. -/
def flushReason : String := "flush failed"

/-- The number of bytes that the sink still takes, of so many. -/
def room (s : Sink) (wanted : Nat) : Nat :=
  match s.limit with
  | none => wanted
  | some limit => min wanted (limit - s.written.length)

/-- Write a text, and tell whether all of it was taken. -/
def write (s : Sink) (text : String) : Sink × Bool :=
  let bytes := Text.encode text
  let taken := s.room bytes.length
  ({ s with written := s.written ++ bytes.take taken }, taken == bytes.length)

/-- What was written, as text. -/
def text (s : Sink) : String :=
  Text.decodeReplacing s.written

end Sink

end ReleaseGate
