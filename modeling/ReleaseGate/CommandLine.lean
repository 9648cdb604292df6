import ReleaseGate.CommandLine.Help
import ReleaseGate.Input
import ReleaseGate.Profile.File
import ReleaseGate.Profile.Writer
import ReleaseGate.Validation

/-!
# The command line — a whole run of the program

The profile comes first: it is loaded, and then either printed or compiled. Only then is the
snapshot looked for and validated. The exit status tells the verdict; a run that was aborted says why
on the error output, behind the events.

A run is written over any monad in which its surroundings can be asked for what they hold. They are
asked only for what is needed: the standard input is left alone when the snapshot is given elsewhere.
-/

namespace ReleaseGate.CommandLine

/-- What a run asks of its surroundings. -/
structure Surroundings (m : Type → Type) where
  /-- The value of the environment variable for the snapshot, when it is set to a text. -/
  environment : m (Option String)
  /-- The standard input, or why it cannot be read; none at a terminal. -/
  stdin : m (Option (Except String (List UInt8)))
  /-- The content of a file. -/
  file : String → m (Except FileFault (List UInt8))
  /-- The tool with a name. -/
  tool : String → m Tool
  temporary : Temporary

/-- Why a run of the program is aborted. -/
inductive Trouble where
  | profileNotLoaded (path : String) (failure : Failure)
  | snapshotNotRead (reason : String)
  | noSnapshot
  | failed (failure : Failure)
  deriving Repr, DecidableEq

namespace Trouble

/-- The message: what was being done when something failed, and the failure. -/
def message : Trouble → String
  | profileNotLoaded path failure =>
    "Failed to load extraction profile " ++ Text.quoted path ++ ": " ++ failure.message
  | snapshotNotRead reason => "Failed to read snapshot from stdin: " ++ reason
  | noSnapshot =>
    "No snapshot provided\nProvide via --snapshot argument, SNAPSHOT env var, or stdin"
  | failed failure => failure.message

/-- The exit status: that of the failure, if there is one. -/
def exitStatus : Trouble → Nat
  | profileNotLoaded _ failure => failure.exitStatus
  | snapshotNotRead _ => exitAborted
  | noSnapshot => exitAborted
  | failed failure => failure.exitStatus

end Trouble

/-- What a run has come to: its events, its output, its calls of the extractor, and its exit status
or what stopped it. -/
structure Conclusion where
  events : List Event
  output : String
  calls : List Call
  result : Except Trouble Nat

/-- What is seen of a run from outside. -/
structure Reply where
  exitStatus : Nat
  output : String
  errorOutput : String
  deriving Repr, DecidableEq

namespace Conclusion

/-- A run that was stopped before there was any output. -/
def stopped (trouble : Trouble) : Conclusion := ⟨[], "", [], .error trouble⟩

/-- The exit status of a run. -/
def exitStatus (c : Conclusion) : Nat :=
  match c.result with
  | .ok status => status
  | .error trouble => trouble.exitStatus

/-- The message at the end of the error output: only an aborted run has one. A run that found
components missing has already reported them. -/
def complaint (c : Conclusion) : String :=
  match c.result with
  | .ok _ => ""
  | .error trouble =>
    if trouble.exitStatus == exitAborted then "ERROR: " ++ trouble.message ++ "\n" else ""

/-- What is seen of a run. -/
def reply (c : Conclusion) (verbose : Bool) : Reply where
  exitStatus := c.exitStatus
  output := c.output
  errorOutput :=
    String.join ((c.events.filter (·.shown verbose)).map fun e => e.printed ++ "\n") ++ c.complaint

end Conclusion

/-- What is seen of a run that ends with the reading of its arguments. -/
def Stop.reply : Stop → Reply
  | .help => ⟨exitPassed, CommandLine.help, ""⟩
  | .version => ⟨exitPassed, CommandLine.version, ""⟩
  | .refused r => ⟨exitAborted, "", r.text⟩

/-- The note on a snapshot that was read. -/
def reading (raw : String) : Event :=
  ⟨.debug, "Read " ++ toString raw.utf8ByteSize ++ " bytes of snapshot JSON"⟩

/-- The note on a verdict. -/
def finishing (v : Verdict) : Event :=
  ⟨.info, "Validation finished: " ++ toString v.matching ++ " match(es), " ++
    toString v.failing ++ " failure(s)"⟩

/-- The profile to work with, and what is noted on the way. -/
def loadProfile {m : Type → Type} [Monad m] (s : Surroundings m) :
    Option String → m (List Event × Except Trouble Profile)
  | none => return ([], .ok .builtIn)
  | some path => do
    let (events, p) := Profile.load path (← s.file path)
    return (events, p.mapError (.profileNotLoaded path))

/-- The snapshot's text. -/
def readSnapshot {m : Type → Type} [Monad m] (s : Surroundings m) (flag : Option String) :
    m (Except Trouble String) := do
  let environment ← s.environment
  let stdin ← if (Input.beforeStdin flag environment).isSome then pure none else s.stdin
  return match Input.snapshot flag environment stdin with
    | .error reason => .error (.snapshotNotRead reason)
    | .ok none => .error .noSnapshot
    | .ok (some raw) => .ok raw

/-- The validation of a snapshot. -/
def validation (raw : String) (tool : Tool) (temporary : Temporary) (rs : Rules) : Conclusion :=
  let (result, w) :=
    (Validation.validate raw tool.extractor rs).run ⟨Sink.unlimited, temporary, [], []⟩
  match result with
  | .ok v => ⟨reading raw :: w.events ++ [finishing v], w.sink.text, w.calls, .ok v.exitStatus⟩
  | .error failure => ⟨reading raw :: w.events, w.sink.text, w.calls, .error (.failed failure)⟩

/-- A run with a profile. -/
def runWith {m : Type → Type} [Monad m] (s : Surroundings m) (o : Options) (p : Profile) :
    m Conclusion := do
  if o.printProfile then return ⟨[], p.toYaml, [], .ok exitPassed⟩
  else match p.compile with
    | .error failure => return .stopped (.failed failure)
    | .ok rs =>
      match ← readSnapshot s o.snapshot with
      | .error trouble => return .stopped trouble
      | .ok raw => return validation raw (← s.tool o.tool) s.temporary rs

/-- A run with options. -/
def conclude {m : Type → Type} [Monad m] (s : Surroundings m) (o : Options) : m Conclusion := do
  let (loaded, p) ← loadProfile s o.profile
  let c ← match p with
    | .error trouble => pure (.stopped trouble)
    | .ok p => runWith s o p
  return { c with events := loaded ++ c.events }

/-- A run of the program with the words of its command line. -/
def run {m : Type → Type} [Monad m] (s : Surroundings m) (words : List String) : m Reply := do
  match Options.ofWords words with
  | .error stop => return stop.reply
  | .ok o => return (← conclude s o).reply o.verbose

end ReleaseGate.CommandLine
