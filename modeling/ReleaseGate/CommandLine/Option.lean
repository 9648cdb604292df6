import ReleaseGate.Tool

/-!
# Options — what can be asked for on the command line

An option has a long name, some have a short one as well, and some take a value. All that is shown
of an option, in the help as in an error, comes from here.
-/

namespace ReleaseGate.CommandLine

/-- An option. -/
inductive Opt where
  | verbose
  | snapshot
  | profile
  | tool
  | printProfile
  | help
  | version
  deriving Repr, DecidableEq

namespace Opt

/-- All options, in the order of the help. -/
def all : List Opt := [verbose, snapshot, profile, tool, printProfile, help, version]

/-- The name behind two hyphens. -/
def long : Opt → String
  | verbose => "verbose"
  | snapshot => "snapshot"
  | profile => "profile"
  | tool => "oc"
  | printProfile => "print-profile"
  | help => "help"
  | version => "version"

/-- The letter behind one hyphen. Only options without a value have one. -/
def short? : Opt → Option Char
  | verbose => some 'v'
  | help => some 'h'
  | version => some 'V'
  | _ => none

/-- The name of the value. -/
def valueName? : Opt → Option String
  | snapshot => some "SNAPSHOT"
  | profile => some "PROFILE"
  | tool => some "OC"
  | _ => none

/-- Does the option take a value? -/
def takesValue (o : Opt) : Bool :=
  o.valueName?.isSome

/-- Is the value a path, so that it must not be empty? -/
def isPath : Opt → Bool
  | profile | tool => true
  | _ => false

/-- The option as it is shown. -/
def shown (o : Opt) : String :=
  "--" ++ o.long ++
    match o.valueName? with
    | some name => " <" ++ name ++ ">"
    | none => ""

/-- What the option is for. -/
def summary : Opt → String
  | verbose => "Enable verbose output"
  | snapshot => "Snapshot JSON (can also be provided via SNAPSHOT env var or stdin)"
  | profile => "Extraction profile (YAML) to use instead of the built-in bpfman layout"
  | tool => "Image extraction tool [default: " ++ Tool.defaultName ++ "]"
  | printProfile => "Print the extraction profile as YAML and exit"
  | help => "Print help"
  | version => "Print version"

/-- The option with a long name. -/
def ofLong? (name : String) : Option Opt :=
  all.find? fun o => o.long == name

/-- The option with a short name. -/
def ofShort? (c : Char) : Option Opt :=
  all.find? fun o => o.short? == some c

end Opt

end ReleaseGate.CommandLine
