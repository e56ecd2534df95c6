/-
# Executing commands

A command acts on the host and ends with an exit code and its output.  Failures are written as a
paragraph with their causes.
-/
import VoiceSteering.Command.Parse
import VoiceSteering.Json.Printer
import VoiceSteering.Service.Session

namespace VoiceSteering.Command

open Kernel (MapId Role)
open HostAction (during runPool)

/-- How a command ended. -/
structure Ending where
  exitCode : Nat
  output : String := ""
  errors : String := ""
deriving DecidableEq, Repr

/-! ## Configuration files -/

/-- The configuration in a file. -/
def loadConfig (path : String) : HostAction Config := do
  let h ← get
  let content ← match h.files.readFile path with
    | .ok content => pure content
    | .error e => throw (.during (.readConfigFile path) (.file e))
  match String.fromUTF8? ⟨content.toArray⟩ with
  | none => throw (.during (.readConfigFile path) .notUtf8)
  | some text =>
    match (Config.read text).1 with
    | .ok c => return c
    | .error (.invalid e) => throw (.during (.acceptConfig path) (.invalidConfig e))
    | .error _ => throw (.during (.acceptConfig path) (.during .parseConfig .badToml))

/-! ## Pinned maps -/

/-- Opens a pinned map, whose entries have to be those of a role. -/
def openPin (pinDir name : String) (role : Role) (arrayKind : String) : HostAction MapId := do
  let h ← get
  let path := Path.join pinDir name
  match h.files.openPin? path with
  | none => throw (.pinUnavailable path)
  | some id =>
    match h.kernel.map? id with
    | none => throw (.pinUnavailable path)
    | some m =>
      match m.spec.checkSizes role with
      | .ok () => return id
      | .error e => throw (.pinMismatch arrayKind e)

/-- Opens both maps of a pool. -/
def openPool (pinDir : String) (pool : Pool) : HostAction (MapId × MapId) := do
  let backends ← openPin pinDir (Kernel.backendMap pool) .backends "Array"
  let maglev ← openPin pinDir (Kernel.maglevMap pool) .maglev "Array"
  return (backends, maglev)

/-- Runs an operation on the pinned maps of a pool. -/
def onPool {α : Type} (pinDir : String) (pool : Pool) (script : PoolScript α) : HostAction α := do
  let (backends, maglev) ← openPool pinDir pool
  runPool backends maglev script

/-! ## Commands -/

/-- Lines as a text. -/
def unlines (lines : List String) : String := String.join (lines.map (· ++ "\n"))

/-- What a command does and puts out.  There is no packet program to run. -/
def perform : Command → HostAction String
  | run config iface mode pinDir => do
    let config ← loadConfig config
    let _ ← Service.start none { iface, pinDir, mode, config }
    return ""
  | stats pinDir asJson => do
    let id ← openPin pinDir Kernel.statsMap .stats "PerCpuArray"
    let s ← Service.snapshot id
    return if asJson then s.toJson.pretty ++ "\n" else unlines s.listing
  | listBackends pool pinDir => do
    let table ← onPool pinDir pool PoolScript.list
    return unlines table.rows
  | setBackend pool pinDir slot entry => do
    onPool pinDir pool (PoolScript.update slot (some entry.toBackend))
    return ""
  | clearBackend pool pinDir slot => do
    onPool pinDir pool (PoolScript.update slot none)
    return ""
  | select source port slots =>
    return s!"slot {Selection.slot source port slots} " ++
      s!"(maglev index {Selection.maglevIndex source port})\n"
  | checkConfig path => do
    let c ← loadConfig path
    return s!"{path}: ok ({c.signalingBackends.length} signaling, " ++
      s!"{c.apiBackends.length} api backends)\n"

/-- The text that explains the commands. -/
def usage : String := unlines [
  "Usage: voice-lb <COMMAND>",
  "",
  "Commands:",
  "  run           --config FILE --iface IFACE [--xdp-mode skb|driver|hw] [--pin-dir DIR]",
  "  stats         [--pin-dir DIR] [--json]",
  "  backend list  --pool signaling|api [--pin-dir DIR]",
  "  backend set   --pool signaling|api --slot N --address IPV4 --port PORT [--weight N]",
  "                [--mac MAC] [--pin-dir DIR]",
  "  backend clear --pool signaling|api --slot N [--pin-dir DIR]",
  "  select        --addr IPV4 --port PORT [--slots N]",
  "  check-config  --config FILE"]

/-- Executes the command that arguments ask for. -/
def execute (args : List String) (h : Host) : Ending × Host :=
  match read args with
  | .error .help => (⟨0, usage, ""⟩, h)
  | .error .wrong => (⟨2, "", usage⟩, h)
  | .ok command =>
    match (perform command).run h with
    | (.ok output, h) => (⟨0, output, ""⟩, h)
    | (.error failure, h) => (⟨1, "", s!"voice-lb error: {failure.report}\n"⟩, h)

/-- Executes a command as a process of its own: with its own faults, and without telling events to
anyone else. -/
def executeAlone (args : List String) (faults : Kernel.Faults) (h : Host) : Ending × Host :=
  let (ending, after) := execute args { h with faults }
  (ending, { after with faults := h.faults, events := h.events })

end VoiceSteering.Command
