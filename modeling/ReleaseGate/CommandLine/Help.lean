import ReleaseGate.CommandLine.Arguments
import ReleaseGate.Text.Column

/-!
# Help — what the program says about its options

The help lists all options with their summaries in a column of their own. A refusal names what is
wrong, and shows the usage and the way to the help.
-/

namespace ReleaseGate.CommandLine

/-- The name of the program. -/
def programName : String := "snapcheck"

/-- The version of the program. -/
def programVersion : String := "0.1.0"

/-- What the program is for. -/
def purpose : String :=
  "Validate that a release snapshot is self-consistent with its operator bundle"

/-- The usage: of all options, or of some. -/
def usage : Option (List Opt) → String
  | none => "Usage: " ++ programName ++ " [OPTIONS]"
  | some used => Text.joined " " (("Usage: " ++ programName) :: used.map Opt.shown)

namespace Opt

/-- The names of an option at the start of its line in the help. -/
def label (o : Opt) : String :=
  (match o.short? with
    | some c => String.ofList ['-', c, ',', ' ']
    | none => "    ") ++ o.shown

/-- The width of the column of names. -/
def labelWidth : Nat :=
  (all.map fun o => o.label.toList.length).foldl max 0

/-- An option's line in the help. -/
def helpLine (o : Opt) : String :=
  "  " ++ Text.padRight labelWidth o.label ++ "  " ++ o.summary

end Opt

/-- The help. -/
def help : String :=
  purpose ++ "\n\n" ++ usage none ++ "\n\nOptions:\n" ++
    String.join (Opt.all.map fun o => o.helpLine ++ "\n")

/-- The name and the version. -/
def version : String :=
  programName ++ " " ++ programVersion ++ "\n"

namespace Refusal

/-- What is wrong. -/
def message : Refusal → String
  | unknown word _ _ => "unexpected argument '" ++ word ++ "' found"
  | noValue o => "a value is required for '" ++ o.shown ++ "' but none was supplied"
  | repeated o => "the argument '" ++ o.shown ++ "' cannot be used multiple times"
  | unwantedValue value o _ =>
    "unexpected value '" ++ value ++ "' for '" ++ o.shown ++ "' found; no more were expected"

/-- The tip that a similar option exists. -/
def tip : Refusal → String
  | unknown _ (some o) _ =>
    "\n\n  tip: a similar argument exists: '--" ++ o.long ++ "'"
  | _ => ""

/-- The usage shown with a refusal. A missing value has none. -/
def usageShown : Refusal → String
  | unknown _ _ used => "\n\n" ++ usage used
  | noValue _ => ""
  | repeated _ => "\n\n" ++ usage none
  | unwantedValue _ _ used => "\n\n" ++ usage (some used)

/-- The text of a refusal. -/
def text (r : Refusal) : String :=
  "error: " ++ r.message ++ r.tip ++ r.usageShown ++
    "\n\nFor more information, try '--help'.\n"

end Refusal

end ReleaseGate.CommandLine
