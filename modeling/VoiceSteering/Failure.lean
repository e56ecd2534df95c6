/-
# Failures

A command or a run of the balancer ends with a failure that has a cause, which may have a cause in
turn.  What was being done is a stage; what went wrong is one of the plain causes.
-/
import VoiceSteering.Config.Toml
import VoiceSteering.Counters
import VoiceSteering.Host.FileError
import VoiceSteering.Kernel.Error

namespace VoiceSteering

open Kernel (Errno MapError)

/-- What was being done when something failed. -/
inductive Stage where
  | loadObject
  | writeSettings
  /-- A map is not of the kind that its role needs. -/
  | mapRole (role : String)
  | readSlot (slot : Nat)
  | writeSlot (slot : Nat)
  | writeMaglevEntry (index : Nat)
  | readCounter (c : Counter)
  | createDirectory (path : String)
  | removeStalePin (path : String)
  | programKind
  | loadProgram
  | attach (iface : String)
  | detach
  | readConfigFile (path : String)
  | acceptConfig (path : String)
  | parseConfig
deriving DecidableEq, Repr

def Stage.message : Stage → String
  | loadObject => "failed to load eBPF object"
  | writeSettings => "failed to write runtime config"
  | mapRole role => s!"{role} map has unexpected type"
  | readSlot slot => s!"failed to read backend slot {slot}"
  | writeSlot slot => s!"failed to write backend slot {slot}"
  | writeMaglevEntry index => s!"failed to write maglev entry {index}"
  | readCounter c => s!"failed to read stat {c.name}"
  | createDirectory path => s!"failed to create {path}"
  | removeStalePin path => s!"failed to remove stale pin {path}"
  | programKind => "xdp program has wrong type"
  | loadProgram => "failed to load xdp program"
  | attach iface => s!"failed to attach xdp on {iface}"
  | detach => "failed to detach xdp program"
  | readConfigFile path => s!"failed to read config at {path}"
  | acceptConfig path => s!"invalid config at {path}"
  | parseConfig => "failed to parse TOML"

/-- Why something failed. -/
inductive Failure where
  /-- A failure during a stage. -/
  | during (stage : Stage) (cause : Failure)
  /-- There is no packet program to load. -/
  | noObject
  | invalidConfig (e : Config.Invalid)
  /-- The text is no TOML document, or its data do not fit. -/
  | badToml
  | notUtf8
  | slot (e : SlotError)
  | map (e : MapError)
  | mapMissing (name : String)
  | programMissing (name : String)
  | programNotXdp
  | mapCreation (name : String) (errno : Errno)
  | programLoad (errno : Errno)
  | unknownInterface (name : String)
  | notAttached
  /-- A map cannot be pinned; the text of the cause is part of the message. -/
  | pinning (name path : String) (cause : MapError)
  /-- A pin cannot be opened. -/
  | pinUnavailable (path : String)
  /-- A pinned map is no array of the expected entries. -/
  | pinMismatch (arrayKind : String) (cause : MapError)
  | file (e : FileError)
deriving DecidableEq, Repr

namespace Failure

/-- The messages of a failure and of its causes, outermost first. -/
def chain : Failure → List String
  | during stage cause => stage.message :: cause.chain
  | noObject => ["this binary was built without the XDP object; " ++
      "install bpf-linker and rebuild without VOICE_LB_SKIP_EBPF"]
  | invalidConfig e => [e.message]
  | badToml => ["TOML parse error"]
  | notUtf8 => ["stream did not contain valid UTF-8"]
  | slot e => [e.message]
  | map e => e.chain
  | mapMissing name => [s!"map {name} not found"]
  | programMissing name => [s!"program {name} not found"]
  | programNotXdp => ["unexpected program type"]
  | mapCreation name errno =>
    let text := s!"failed to create map `{name}` with code -1"
    ["map error: " ++ text, text, errno.render]
  | programLoad errno =>
    ["the BPF_PROG_LOAD syscall failed. Verifier output: ", errno.render]
  | unknownInterface name => [s!"unknown network interface {name}"]
  | notAttached => ["the program is not attached"]
  | pinning name path cause => [s!"failed to pin map {name} at {path}: {cause.message}"]
  | pinUnavailable path => [s!"failed to open pinned map {path}: `BPF_OBJ_GET` failed"]
  | pinMismatch arrayKind cause => [s!"failed to convert to {arrayKind}: {cause.message}"]
  | file e => [e.message]

/-- The messages in one line. -/
def oneLine (f : Failure) : String := ": ".intercalate f.chain

/-- The lines of a text after its first one are moved in. -/
def indented (width : Nat) (text : String) : String :=
  ("\n" ++ String.ofList (List.replicate width ' ')).intercalate (text.splitOn "\n")

/-- The messages as a paragraph: the outermost one, then its causes below a heading, numbered when
there are several. -/
def report (f : Failure) : String :=
  match f.chain with
  | [] => ""
  | [message] => message
  | [message, cause] => s!"{message}\n\nCaused by:\n    {indented 4 cause}"
  | message :: causes =>
    let lines := causes.mapIdx fun i cause =>
      s!"\n{Text.alignRight 5 (toString i)}: {indented 7 cause}"
    s!"{message}\n\nCaused by:" ++ String.join lines

end Failure

end VoiceSteering
