import ReleaseGate.CommandLine

/-!
# The program — the command line on the real surroundings

Nothing is decided here: the surroundings are the environment, the standard input and the files of
the system, and the reply is printed. There is no way to start another program from here, so a tool
is never found.
-/

namespace ReleaseGate.Program

/-- What is left of an input. -/
partial def readAll (input : IO.FS.Stream) (before : List UInt8) : IO (List UInt8) := do
  let bytes ← input.read 65536
  if bytes.isEmpty then return before else readAll input (before ++ bytes.toList)

/-- Why a file could not be read. -/
def faultOf : IO.Error → FileFault
  | .inappropriateType .. => .isDirectory
  | .permissionDenied .. => .denied
  | .invalidArgument .. => .nameTooLong
  | _ => .notFound

/-- The standard input, or why it cannot be read, unless it is a terminal. -/
def stdin : IO (Option (Except String (List UInt8))) := do
  let input ← IO.getStdin
  if ← input.isTty then return none
  try
    return some (.ok (← readAll input []))
  catch e =>
    return some (.error (faultOf e).words)

/-- The content of a file. -/
def file (path : String) : IO (Except FileFault (List UInt8)) := do
  try
    return .ok (← IO.FS.readBinFile path).toList
  catch e =>
    return .error (faultOf e)

/-- The tool with a name. No path counts as that of a program. -/
def tool (name : String) : IO Tool := do
  let directories := (← IO.getEnv "PATH").map fun path => path.splitOn ":"
  return ⟨name, Tool.find (fun _ => false) directories "" name,
    fun _ => .notStarted Tool.notFoundReason⟩

/-- The surroundings of the program. -/
def surroundings : CommandLine.Surroundings IO where
  environment := IO.getEnv "SNAPSHOT"
  stdin := stdin
  file := file
  tool := tool
  temporary := ⟨some [], "/tmp/" ++ Extraction.temporaryStem⟩

end ReleaseGate.Program

/-- Run the program. -/
def main (words : List String) : IO UInt32 := do
  let reply ← ReleaseGate.CommandLine.run ReleaseGate.Program.surroundings words
  IO.print reply.output
  IO.eprint reply.errorOutput
  return UInt32.ofNat reply.exitStatus
