import ReleaseGate.Extraction
import ReleaseGate.Text.Blank

/-!
# Tools — extracting an image with a program

The program is looked for, started with four arguments and waited for. Its exit status alone tells
whether it has succeeded. When it has not, what it wrote to its error output is the reason, and the
way it ended is the reason when it wrote nothing.
-/

namespace ReleaseGate

/-- How a program ended. -/
inductive Ending where
  | exited (status : Nat)
  /-- A signal ended it, and its memory was dumped or not. -/
  | killed (signal : Nat) (dumped : Bool)
  deriving Repr, DecidableEq

namespace Ending

/-- The signals and their names. -/
def signals : List (Nat × String) :=
  [ (1, "SIGHUP"), (2, "SIGINT"), (3, "SIGQUIT"), (4, "SIGILL"), (5, "SIGTRAP"), (6, "SIGABRT"),
    (7, "SIGBUS"), (8, "SIGFPE"), (9, "SIGKILL"), (10, "SIGUSR1"), (11, "SIGSEGV"),
    (12, "SIGUSR2"), (13, "SIGPIPE"), (14, "SIGALRM"), (15, "SIGTERM"), (16, "SIGSTKFLT"),
    (17, "SIGCHLD"), (18, "SIGCONT"), (19, "SIGSTOP"), (20, "SIGTSTP"), (21, "SIGTTIN"),
    (22, "SIGTTOU"), (23, "SIGURG"), (24, "SIGXCPU"), (25, "SIGXFSZ"), (26, "SIGVTALRM"),
    (27, "SIGPROF"), (28, "SIGWINCH"), (29, "SIGIO"), (30, "SIGPWR"), (31, "SIGSYS") ]

/-- Did the program succeed? -/
def succeeded : Ending → Bool
  | exited status => status == 0
  | killed _ _ => false

/-- The words for an ending. -/
def words : Ending → String
  | exited status => "exit status: " ++ toString status
  | killed signal dumped =>
    "signal: " ++ toString signal ++
      (match signals.lookup signal with
      | some name => " (" ++ name ++ ")"
      | none => "") ++
      if dumped then " (core dumped)" else ""

end Ending

/-- What becomes of a program that is to be started. -/
inductive Fate where
  | notStarted (reason : String)
  /-- It ran: the entries it made below the destination, its error output, and how it ended. -/
  | ran (made : Directory) (errorOutput : List UInt8) (ending : Ending)

/-- A program that extracts images. -/
structure Tool where
  /-- The name it is asked for by. -/
  name : String
  /-- The path it was found at, or the reason why it was not found. -/
  path : Except String String
  /-- What becomes of it when it is started with arguments. -/
  start : List String → Fate

namespace Tool

/-- The name of the tool that is used unless another one is asked for. -/
def defaultName : String := "oc"

/-- The names of a path's steps, without those that stay where they are. -/
def steps (path : String) : List String :=
  (Path.names path).filter fun name => !name.isEmpty && name != "."

/-- Is a name no more than one step, so that it has to be looked for? -/
def isBare (name : String) : Bool :=
  let start := if Path.isAbsolute name || (Path.names name).head? == some "." then 1 else 0
  (steps name).length + start ≤ 1

/-- The reason given when a program is at none of the paths it may be found at. -/
def notFoundReason : String := "cannot find binary path"

/-- The reason given when there are no directories to look for a program in. -/
def nowhereReason : String := "no path to search and provided name is not an absolute path"

/-- The paths at which a program may be found, best first. Only a bare name is looked for in the
directories, if there are any; any other is a path from the working directory. -/
def candidates (directories : Option (List String)) (working name : String) :
    Except String (List String) :=
  if isBare name then
    match directories with
    | some directories => .ok (directories.map fun directory => Path.join directory name)
    | none => .error nowhereReason
  else if Path.isAbsolute name then .ok [name]
  else .ok [Path.join working (Text.joined "/" (steps name))]

/-- The first path at which there is a program. -/
def find (isProgram : String → Bool) (directories : Option (List String))
    (working name : String) : Except String String := do
  match (← candidates directories working name).find? isProgram with
  | some path => return path
  | none => throw notFoundReason

/-- The arguments that a tool is started with. -/
def arguments (image source destination : String) : List String :=
  ["image", "extract", image, "--path=" ++ source ++ ":" ++ destination]

/-- The reason given when an argument cannot be handed to a program. -/
def nulReason : String := "nul byte found in provided data"

/-- What becomes of a tool: no argument may hold a NUL. -/
def fate (t : Tool) (args : List String) : Fate :=
  if args.any fun a => a.toList.contains '\x00' then .notStarted nulReason else t.start args

/-- Why a tool that ran has failed. -/
def complaint (path : String) (errorOutput : List UInt8) (ending : Ending) : String :=
  let said := Text.trim (Text.decodeReplacing errorOutput)
  if said.isEmpty then path ++ " exited with " ++ ending.words else said

/-- The note on starting a tool. -/
def running (path : String) (args : List String) : Event :=
  ⟨.debug, "Running " ++ path ++ " " ++ Text.joined " " args⟩

/-- Extract an image with a tool that was found at a path. -/
def extractAt (t : Tool) (path image source destination : String) : Extraction :=
  let args := arguments image source destination
  let events := [running path args]
  match t.fate args with
  | .notStarted reason =>
    ⟨[], some (.extraction image ("failed to run " ++ path ++ ": " ++ reason)), events⟩
  | .ran made errorOutput ending =>
    ⟨made, if ending.succeeded then none
      else some (.extraction image (complaint path errorOutput ending)), events⟩

/-- The extractor that uses a tool. -/
def extractor (t : Tool) : Extractor := fun image source destination =>
  match t.path with
  | .error reason => ⟨[], some (.extraction image (t.name ++ " not found: " ++ reason)), []⟩
  | .ok path => t.extractAt path image source destination

end Tool

end ReleaseGate
