/-
# Command-line arguments

Commands take options and nothing else.  An option is written `--name value` or `--name=value`, one
with a letter also `-l value`, `-lvalue` or `-l=value`; a flag has no value.  No option may be
given twice, and a separate value may not look like an option.  A request for help is granted only
when nothing before it is wrong.
-/
import VoiceSteering.Net.Address
import VoiceSteering.Text.Numeral

namespace VoiceSteering.Command

/-- Why arguments are not taken: they ask for help, or they are wrong. -/
inductive Refusal where
  | help
  | wrong
deriving DecidableEq, Repr

/-- An option that a command knows. -/
structure OptionSpec where
  name : String
  letter : Option Char := none
  takesValue : Bool := true
  /-- Whether a text can be the value. -/
  accepts : String → Bool := fun _ => true

/-- Options with their values; a flag has the empty value. -/
abbrev Given := List (String × String)

/-- Whether an argument looks like an option.  A lone hyphen does not. -/
def looksLikeOption (arg : String) : Bool := arg.startsWith "-" && arg != "-"

/-- Adds an option that has not been given yet, with a value that it accepts. -/
def addOption (given : Given) (spec : OptionSpec) (value : String) : Except Refusal Given :=
  if (given.lookup spec.name).isSome || !spec.accepts value then .error .wrong
  else .ok (given ++ [(spec.name, value)])

/-- How an argument writes an option: its name or letter, and its value if it is attached. -/
inductive Written where
  | long (name : String) (value : Option String)
  | short (letter : Char) (value : Option String)
  /-- The mark after which there are no options. -/
  | endMark
  /-- No option at all. -/
  | plain
deriving DecidableEq, Repr

/-- A text split at its first equals sign. -/
def splitEquals (cs : List Char) : List Char × Option (List Char) :=
  match cs.span (· ≠ '=') with
  | (name, '=' :: value) => (name, some value)
  | (name, _) => (name, none)

def Written.of (arg : String) : Written :=
  match arg.toList with
  | ['-', '-'] => .endMark
  | '-' :: '-' :: rest =>
    let (name, value) := splitEquals rest
    .long (String.ofList name) (value.map String.ofList)
  | ['-', letter] => .short letter none
  | '-' :: letter :: '=' :: value => .short letter (some (String.ofList value))
  | '-' :: letter :: value => .short letter (some (String.ofList value))
  | _ => .plain

/-- The option that an argument writes. -/
def findOption (specs : List OptionSpec) : Written → Option (OptionSpec × Option String)
  | .long name value => (specs.find? (·.name == name)).map (·, value)
  | .short letter value => (specs.find? (·.letter == some letter)).map (·, value)
  | .endMark | .plain => none

/-- Whether an argument asks for help.  What follows the letter in the same argument is not read. -/
def asksForHelp (arg : String) : Bool :=
  match Written.of arg with
  | .long name none => name == "help"
  | .short letter _ => letter == 'h'
  | _ => false

/-- Reads the options of a command from left to right, up to a request for help.  A value of a known
option is taken before anything else. -/
def readOptions (specs : List OptionSpec) : List String → Given → Except Refusal Given
  | [], given => .ok given
  | arg :: rest, given =>
    match findOption specs (.of arg) with
    | some (spec, some value) =>
      if spec.takesValue then
        match addOption given spec value with
        | .ok given => readOptions specs rest given
        | .error e => .error e
      else .error .wrong
    | some (spec, none) =>
      if spec.takesValue then
        match rest with
        | [] => .error .wrong
        | value :: rest =>
          if looksLikeOption value then .error .wrong
          else
            match addOption given spec value with
            | .ok given => readOptions specs rest given
            | .error e => .error e
      else
        match addOption given spec "" with
        | .ok given => readOptions specs rest given
        | .error e => .error e
    | none =>
      if asksForHelp arg then .error .help
      else if arg == "--" && rest.isEmpty then .ok given
      else .error .wrong

/-! ## Typed values -/

/-- A decimal number with an optional sign. -/
def signedNumber? (text : String) : Option Int :=
  match text.toList with
  | '+' :: ds => (Text.numeral? ds).map fun n => (n : Int)
  | '-' :: ds => (Text.numeral? ds).map fun n => -(n : Int)
  | ds => (Text.numeral? ds).map fun n => (n : Int)

/-- A whole number between two bounds. -/
def number (low high : Nat) (text : String) : Except Refusal Nat :=
  match signedNumber? text with
  | some n => if (low : Int) ≤ n ∧ n ≤ high then .ok n.toNat else .error .wrong
  | none => .error .wrong

/-- A path, which is not empty. -/
def path (text : String) : Except Refusal String :=
  if text = "" then .error .wrong else .ok text

/-- A dotted address. -/
def address (text : String) : Except Refusal Address :=
  match Address.read? text with
  | some a => .ok a
  | none => .error .wrong

/-- One of several names. -/
def choice {α : Type} (names : List (String × α)) (text : String) : Except Refusal α :=
  match names.lookup text with
  | some a => .ok a
  | none => .error .wrong

/-! ## Options with typed values -/

/-- An option whose value is read as a type. -/
structure ValueOption (α : Type) where
  name : String
  letter : Option Char := none
  read : String → Except Refusal α

namespace ValueOption

variable {α : Type}

/-- The option without its type: it accepts what can be read. -/
def spec (o : ValueOption α) : OptionSpec :=
  { name := o.name, letter := o.letter, accepts := fun text => (o.read text).isOk }

/-- The value of an option that has to be given. -/
def required (o : ValueOption α) (given : Given) : Except Refusal α :=
  match given.lookup o.name with
  | some text => o.read text
  | none => .error .wrong

/-- The value of an option that may be left out. -/
def withDefault (o : ValueOption α) (given : Given) (default : α) : Except Refusal α :=
  match given.lookup o.name with
  | some text => o.read text
  | none => .ok default

end ValueOption

end VoiceSteering.Command
