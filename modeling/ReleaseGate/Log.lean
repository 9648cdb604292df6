/-!
# Log events — what a run says about itself

Events go to the error output and never change a result. A quiet run shows warnings only. Where an
event is printed, the control characters that a terminal would obey are escaped.
-/

namespace ReleaseGate

/-- How much an event matters. -/
inductive Level where
  | debug
  | info
  | warn
  deriving Repr, DecidableEq

namespace Level

/-- The word an event starts with. -/
def name : Level → String
  | debug => "DEBUG"
  | info => "INFO"
  | warn => "WARN"

end Level

/-- One event. -/
structure Event where
  level : Level
  message : String
  deriving Repr, DecidableEq

namespace Event

/-- The event as one line. -/
def line (e : Event) : String :=
  e.level.name ++ " " ++ e.message

/-- The control characters with an escape of two hexadecimal digits: escape, bell, backspace, form
feed and delete. -/
def shortEscapes : List (Char × String) :=
  [ ('\x1b', "\\x1b"), ('\x07', "\\x07"), ('\x08', "\\x08"), ('\x0c', "\\x0c"),
    ('\x7f', "\\x7f") ]

/-- A character as it is printed. Those from 80 to 9F, which a terminal may take for the start of a
command, appear as `\u` with the code point in braces. -/
def printedChar (c : Char) : List Char :=
  match shortEscapes.lookup c with
  | some escape => escape.toList
  | none =>
    if 0x80 ≤ c.toNat && c.toNat ≤ 0x9F then
      '\\' :: 'u' :: '\x7b' :: (Nat.toDigits 16 c.toNat ++ ['\x7d'])
    else [c]

/-- The event as it is printed. -/
def printed (e : Event) : String :=
  e.level.name ++ " " ++ String.ofList (e.message.toList.flatMap printedChar)

/-- Is the event shown in a run that is verbose or not? -/
def shown (verbose : Bool) (e : Event) : Bool :=
  verbose || e.level == .warn

end Event

end ReleaseGate
