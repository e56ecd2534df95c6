/-
# Commands

The commands of the balancer and how they are read from arguments.
-/
import VoiceSteering.Command.Arguments
import VoiceSteering.Config.Basic
import VoiceSteering.Event

namespace VoiceSteering

/-- What the balancer is asked to do. -/
inductive Command where
  /-- Load and attach the packet program and serve. -/
  | run (config iface : String) (mode : AttachMode) (pinDir : String)
  /-- Show the counters summed over all cores. -/
  | stats (pinDir : String) (asJson : Bool)
  /-- List the slots of a pool. -/
  | listBackends (pool : Pool) (pinDir : String)
  /-- Fill a slot. -/
  | setBackend (pool : Pool) (pinDir : String) (slot : Nat) (entry : Config.Entry)
  /-- Empty a slot. -/
  | clearBackend (pool : Pool) (pinDir : String) (slot : Nat)
  /-- Show the slot to which a flow is steered. -/
  | select (source : Address) (port : UInt16) (slots : Nat)
  /-- Check a configuration file. -/
  | checkConfig (config : String)
deriving DecidableEq, Repr

namespace Command

/-- Where maps are pinned unless a command says otherwise. -/
def defaultPinDir : String := "/sys/fs/bpf/voice_lb"

def poolNames : List (String × Pool) := Pool.all.map fun p => (p.name, p)

def modeNames : List (String × AttachMode) :=
  [AttachMode.skb, .driver, .hw].map fun m => (m.option, m)

/-- A link-layer address. -/
def mac (text : String) : Except Refusal Mac :=
  match Mac.read text with
  | .ok m => .ok m
  | .error _ => .error .wrong

/-- A 16-bit number. -/
def word16 (text : String) : Except Refusal UInt16 := (·.toUInt16) <$> number 0 65535 text

/-- A 32-bit number. -/
def word32 (text : String) : Except Refusal Nat := number 0 4294967295 text

/-! ## Options -/

def configOption : ValueOption String := { name := "config", letter := some 'c', read := path }

def ifaceOption : ValueOption String := { name := "iface", read := .ok }

def modeOption : ValueOption AttachMode := { name := "xdp-mode", read := choice modeNames }

def pinDirOption : ValueOption String := { name := "pin-dir", read := path }

def poolOption : ValueOption Pool := { name := "pool", read := choice poolNames }

def slotOption : ValueOption Nat := { name := "slot", read := word32 }

def addressOption : ValueOption Address := { name := "address", read := address }

def portOption : ValueOption UInt16 := { name := "port", read := word16 }

def weightOption : ValueOption UInt16 := { name := "weight", read := word16 }

def macOption : ValueOption (Option Mac) := { name := "mac", read := fun text => some <$> mac text }

def sourceOption : ValueOption Address := { name := "addr", read := address }

def slotsOption : ValueOption Nat := { name := "slots", read := number 1 slotCount }

def jsonFlag : OptionSpec := { name := "json", takesValue := false }

/-- The directory of the pins. -/
def pinDir (given : Given) : Except Refusal String := pinDirOption.withDefault given defaultPinDir

/-! ## Reading -/

def readRun (args : List String) : Except Refusal Command := do
  let given ← readOptions
    [configOption.spec, ifaceOption.spec, modeOption.spec, pinDirOption.spec] args []
  return .run (← configOption.required given) (← ifaceOption.required given)
    (← modeOption.withDefault given .driver) (← pinDir given)

def readStats (args : List String) : Except Refusal Command := do
  let given ← readOptions [pinDirOption.spec, jsonFlag] args []
  return .stats (← pinDir given) (given.lookup jsonFlag.name).isSome

def readListBackends (args : List String) : Except Refusal Command := do
  let given ← readOptions [poolOption.spec, pinDirOption.spec] args []
  return .listBackends (← poolOption.required given) (← pinDir given)

def readSetBackend (args : List String) : Except Refusal Command := do
  let given ← readOptions
    [poolOption.spec, pinDirOption.spec, slotOption.spec, addressOption.spec, portOption.spec,
      weightOption.spec, macOption.spec] args []
  let slot ← slotOption.required given
  let entry : Config.Entry := {
    slot := some slot.toUInt32
    address := ← addressOption.required given
    port := ← portOption.required given
    weight := ← weightOption.withDefault given 100
    mac := ← macOption.withDefault given none }
  return .setBackend (← poolOption.required given) (← pinDir given) slot entry

def readClearBackend (args : List String) : Except Refusal Command := do
  let given ← readOptions [poolOption.spec, pinDirOption.spec, slotOption.spec] args []
  return .clearBackend (← poolOption.required given) (← pinDir given) (← slotOption.required given)

def readSelect (args : List String) : Except Refusal Command := do
  let given ← readOptions [sourceOption.spec, portOption.spec, slotsOption.spec] args []
  return .select (← sourceOption.required given) (← portOption.required given)
    (← slotsOption.withDefault given slotCount)

def readCheckConfig (args : List String) : Except Refusal Command := do
  let given ← readOptions [configOption.spec] args []
  return .checkConfig (← configOption.required given)

/-! ## Help -/

/-- Whether there is help on what is named below `backend`. -/
def isBackendTopic : List String → Bool
  | [] => true
  | [name] => name ∈ ["list", "set", "clear", "help"]
  | _ => false

/-- Whether there is help on what is named. -/
def isTopic : List String → Bool
  | [] => true
  | "backend" :: names => isBackendTopic names
  | [name] => name ∈ ["run", "stats", "select", "check-config", "help"]
  | _ => false

/-- Help on a topic, if there is such a topic. -/
def helpOn (isTopic : Bool) : Refusal := if isTopic then .help else .wrong

/-! ## Commands -/

/-- The command below `backend` that arguments ask for. -/
def readBackend : List String → Except Refusal Command
  | [] => .error .wrong
  | "list" :: args => readListBackends args
  | "set" :: args => readSetBackend args
  | "clear" :: args => readClearBackend args
  | "help" :: names => .error (helpOn (isBackendTopic names))
  | arg :: _ => .error (helpOn (asksForHelp arg))

/-- The command that arguments ask for.  Without a command, help is asked for. -/
def read : List String → Except Refusal Command
  | [] | ["--"] => .error .help
  | "run" :: args => readRun args
  | "stats" :: args => readStats args
  | "backend" :: args => readBackend args
  | "select" :: args => readSelect args
  | "check-config" :: args => readCheckConfig args
  | "help" :: names => .error (helpOn (isTopic names))
  | arg :: _ => .error (helpOn (asksForHelp arg))

end Command

end VoiceSteering
