import ReleaseGate.Failure
import ReleaseGate.Files
import ReleaseGate.Log
import ReleaseGate.Sink

/-!
# Runs — what a validation does to the world around it

A run writes to a sink, makes and removes directories among the temporary files, calls the extractor
and notes events. It ends in a value or in a failure; what it has done by then stays done.
-/

namespace ReleaseGate

/-- The temporary files of the system. -/
structure Temporary where
  /-- The directory that holds them; none when it is not there. -/
  entries : Option Directory
  /-- The path under which the directory of an extraction is shown. -/
  shownAs : String

/-- A call of the extractor: the image, and the directory in it. -/
structure Call where
  image : String
  source : String
  deriving Repr, DecidableEq

/-- What a run can change. -/
structure World where
  sink : Sink
  temporary : Temporary
  events : List Event
  calls : List Call

/-- A step of a run. -/
abbrev Run := ExceptT Failure (StateM World)

namespace Run

/-- Note events. -/
def note (events : List Event) : Run Unit :=
  modify fun w => { w with events := w.events ++ events }

/-- A result that was worked out along with events. -/
def recorded {α : Type} (r : List Event × Except Failure α) : Run α := do
  note r.1
  ofExcept r.2

/-- Write a piece of the report. -/
def write (text : String) : Run Unit := do
  let w ← get
  let (sink, taken) := w.sink.write text
  set { w with sink := sink }
  if taken then return () else throw (.io Sink.limitReason)

/-- Write lines of the report one by one; the run ends at the first that is not taken whole. -/
def writeLines : List String → Run Unit
  | [] => return ()
  | line :: rest => do
    write (line ++ "\n")
    writeLines rest

/-- Flush the report. -/
def flush : Run Unit := do
  if (← get).sink.flushFails then throw (.io Sink.flushReason) else return ()

end Run

end ReleaseGate
