import ReleaseGate.CommandLine.Option
import ReleaseGate.Text.Similarity

/-!
# Arguments — the words of a command line as options

An option stands behind two hyphens, with its value behind an equals sign or in the next word; or
it stands for a letter behind one hyphen. No option is given twice, and no word stands alone. The
first word that is wrong ends the reading, and so does the request for help or for the version.

A value in a word of its own is taken at once but checked only when the next option is met. So an
unknown option is reported rather than a missing value before it.
-/

namespace ReleaseGate.CommandLine

/-- What a command line asks for. -/
structure Options where
  verbose : Bool
  snapshot : Option String
  profile : Option String
  tool : String
  printProfile : Bool
  deriving Repr, DecidableEq

/-- Why a command line is refused. Where the usage depends on the options before, they are given;
none stands for the general usage. -/
inductive Refusal where
  /-- A word that is no option, with the option that it looks like. -/
  | unknown (word : String) (similar : Option Opt) (used : Option (List Opt))
  | noValue (o : Opt)
  | repeated (o : Opt)
  | unwantedValue (value : String) (o : Opt) (used : List Opt)
  deriving Repr, DecidableEq

/-- Why the reading ends before there are options to run with. -/
inductive Stop where
  | help
  | version
  | refused (r : Refusal)
  deriving Repr, DecidableEq

/-- The options met so far with their values. -/
structure Given where
  values : List (Opt × String)
  /-- Has any option been met, even one that was dropped again? -/
  met : Bool
  deriving Repr, DecidableEq

/-- An option whose value is yet to be checked, and the value when there is one. -/
abbrev Pending := Option (Opt × Option String)

namespace Given

/-- No options. -/
def nothing : Given := ⟨[], false⟩

/-- The options met so far, when there is any. -/
def used (g : Given) : List Opt :=
  g.values.map (·.1)

/-- The options met so far and one more. -/
def usedWith (g : Given) (o : Opt) : List Opt :=
  if g.used.contains o then g.used else g.used ++ [o]

/-- Take an option with a value. One that is there already is dropped and refused. -/
def put (g : Given) (o : Opt) (value : String) : Given × Option Refusal :=
  if g.used.contains o then
    ({ g with values := g.values.filter fun entry => entry.1 != o }, some (.repeated o))
  else
    (⟨g.values ++ [(o, value)], true⟩,
      if value.isEmpty && o.isPath then some (.noValue o) else none)

/-- Take an option whose value was yet to be checked. -/
def settle (g : Given) : Pending → Given × Option Refusal
  | none => (g, none)
  | some (o, none) => (g, some (.noValue o))
  | some (o, some value) => g.put o value

/-- The options that were asked for. -/
def options (g : Given) : Options where
  verbose := g.used.contains .verbose
  snapshot := g.values.lookup .snapshot
  profile := g.values.lookup .profile
  tool := (g.values.lookup .tool).getD Tool.defaultName
  printProfile := g.used.contains .printProfile

end Given

/-- Go on unless something is refused. -/
def accepted : Given × Option Refusal → Except Stop Given
  | (g, none) => .ok g
  | (_, some r) => .error (.refused r)

/-- Take an option without a value. -/
def takeFlag (g : Given) : Opt → Except Stop Given
  | .help => .error .help
  | .version => .error .version
  | o => accepted (g.put o "")

/-- The letters of a word behind one hyphen. -/
def readLetters (g : Given) (pending : Pending) : List Char → Except Stop (Given × Pending)
  | [] => .ok (g, pending)
  | c :: rest =>
    match Opt.ofShort? c with
    | none => .error (.refused (.unknown (String.ofList ['-', c]) none none))
    | some o => do
      let g ← accepted (g.settle pending)
      readLetters (← takeFlag g o) none rest

/-- The refusal of a long name that no option has. -/
def unknownLong (g : Given) (name : String) : Refusal :=
  match Text.closest name Opt.long Opt.all with
  | some o => .unknown ("--" ++ name) (some o) (some (g.usedWith o))
  | none => .unknown ("--" ++ name) none (if g.met then some g.used else none)

/-- A long name, with the value behind its equals sign. -/
def readLong (g : Given) (pending : Pending) (name : String) (value : Option String) :
    Except Stop (Given × Pending) :=
  match Opt.ofLong? name with
  | none => .error (.refused (unknownLong (g.settle pending).1 name))
  | some o =>
    match o.takesValue, value with
    | false, some v => .error (.refused (.unwantedValue v o (g.usedWith o)))
    | false, none => do
      let g ← accepted (g.settle pending)
      return (← takeFlag g o, none)
    | true, some v => do
      let g ← accepted (g.settle pending)
      return (← accepted (g.put o v), none)
    | true, none => do
      return (← accepted (g.settle pending), some (o, none))

/-- What a word is. -/
inductive Word where
  /-- Two hyphens alone: no options behind them. -/
  | endOfOptions
  | long (name : String) (value : Option String)
  | letters (cs : List Char)
  | plain
  deriving Repr, DecidableEq

namespace Word

/-- A long name and its value. -/
def ofLong (cs : List Char) : Word :=
  let name := cs.takeWhile (· != '=')
  match cs.dropWhile (· != '=') with
  | [] => long (String.ofList name) none
  | _ :: value => long (String.ofList name) (some (String.ofList value))

/-- What a word is. A single hyphen is a plain word. -/
def ofText (word : String) : Word :=
  match word.toList with
  | ['-', '-'] => endOfOptions
  | '-' :: '-' :: cs => ofLong cs
  | '-' :: c :: cs => letters (c :: cs)
  | _ => plain

end Word

/-- The options in the words of a command line. -/
def readWords (g : Given) (pending : Pending) : List String → Except Stop Given
  | [] => accepted (g.settle pending)
  | word :: rest =>
    match Word.ofText word with
    | .endOfOptions =>
      match rest with
      | [] => accepted (g.settle pending)
      | next :: _ => .error (.refused (.unknown next none none))
    | .long name value => do
      let (g, pending) ← readLong g pending name value
      readWords g pending rest
    | .letters cs => do
      let (g, pending) ← readLetters g pending cs
      readWords g pending rest
    | .plain =>
      match pending with
      | some (o, none) => readWords g (some (o, some word)) rest
      | _ => .error (.refused (.unknown word none none))

/-- The options of a command line, without the name of the program. -/
def Options.ofWords (words : List String) : Except Stop Options :=
  (readWords Given.nothing none words).map Given.options

end ReleaseGate.CommandLine
