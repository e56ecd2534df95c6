/-
# Checking a configuration

A configuration is checked rule by rule, and the first broken rule is the error.  The last rules
lay the backends of each pool out into slots; a backend in a slot that no flow can reach is only
worth a warning.
-/
import VoiceSteering.Config.Basic

namespace VoiceSteering.Config

/-- Why a configuration is not accepted. -/
inductive Invalid where
  | emptyMediaRange (first last : UInt16)
  | zeroPort
  | signalingInMediaRange (port : UInt16)
  | sameTcpPort (port : UInt16)
  | zeroWindow
  | zeroCapacity
  | zeroIdleWindows
  | slotCount (pool : Pool) (slots : UInt8)
  | zeroReportInterval
  | zeroCheckTiming
  | zeroThreshold
  /-- A backend is placed beyond the last slot of a pool. -/
  | slotBeyondTable (pool : Pool) (address : Address) (slot : Nat)
  /-- A backend has the address of the empty slot. -/
  | zeroAddress (pool : Pool) (slot : Nat)
  /-- Two backends are placed in one slot. -/
  | slotTaken (pool : Pool) (slot : Nat)
deriving DecidableEq, Repr

def Invalid.message : Invalid → String
  | emptyMediaRange first last => s!"media port range {first.toNat}-{last.toNat} is empty"
  | zeroPort => "ports must be non-zero"
  | signalingInMediaRange port => s!"signaling port {port.toNat} lies inside the media range"
  | sameTcpPort port => s!"signaling TLS port and API port are both {port.toNat}"
  | zeroWindow => "rate window must be greater than zero"
  | zeroCapacity => "rate table capacity must be greater than zero"
  | zeroIdleWindows => "sweep_idle_windows must be greater than zero when sweeping"
  | slotCount pool slots =>
    s!"{pool.name}_slots must be between 1 and {VoiceSteering.slotCount}, got {slots.toNat}"
  | zeroReportInterval => "stats report interval must be greater than zero"
  | zeroCheckTiming => "health check interval and timeout must be greater than zero"
  | zeroThreshold => "health thresholds must be greater than zero"
  | slotBeyondTable pool address slot =>
    s!"{pool.name} backend {Address.render address} uses slot {slot}, " ++
      s!"table has {VoiceSteering.slotCount}"
  | zeroAddress pool slot => s!"{pool.name} backend in slot {slot} has address 0.0.0.0"
  | slotTaken pool slot => s!"{pool.name} slot {slot} is configured twice"

/-- A backend in a slot that no flow is steered to, because slots are selected modulo a smaller
number. -/
structure Unreachable where
  pool : Pool
  slot : Nat
  slots : Nat
deriving DecidableEq, Repr

/-! ## Layout of a pool -/

/-- The slot of the entry at a position: the given one, or else the position. -/
def Entry.slotAt (e : Entry) (position : Nat) : Nat :=
  match e.slot with
  | some slot => slot.toNat
  | none => position

/-- Whether no flow can reach a slot of a pool. -/
def isUnreachable (c : Config) (pool : Pool) (slot : Nat) : Bool :=
  (c.slots pool).toNat ≤ slot && c.selection.mode == .modulo

/-- Places one entry.  An occupied slot is one that is usable, since every placed entry is. -/
def place (pool : Pool) (table : SlotTable) (slot : Nat) (e : Entry) :
    Except Invalid SlotTable :=
  if h : slot < 16 then
    if e.address = 0 then .error (.zeroAddress pool slot)
    else if table[slot].isUsable then .error (.slotTaken pool slot)
    else .ok (table.set slot e.toBackend)
  else .error (.slotBeyondTable pool e.address slot)

/-- The warning about the place of an entry, if it has one. -/
def warning? (c : Config) (pool : Pool) (slot : Nat) (e : Entry) : Option Unreachable :=
  if slot < VoiceSteering.slotCount ∧ e.address ≠ 0 ∧ c.isUnreachable pool slot then
    some ⟨pool, slot, (c.slots pool).toNat⟩
  else none

/-- Places entries from a position on.  The warnings are those up to the first error. -/
def layOutFrom (c : Config) (pool : Pool) :
    (position : Nat) → List Entry → SlotTable → Except Invalid SlotTable × List Unreachable
  | _, [], table => (.ok table, [])
  | position, e :: rest, table =>
    let slot := e.slotAt position
    let warning := (c.warning? pool slot e).toList
    match place pool table slot e with
    | .error err => (.error err, warning)
    | .ok table =>
      let (result, warnings) := c.layOutFrom pool (position + 1) rest table
      (result, warning ++ warnings)

/-- The slots of a pool as configured, with the warnings about them. -/
def layOut (c : Config) (pool : Pool) : Except Invalid SlotTable × List Unreachable :=
  c.layOutFrom pool 0 (c.entries pool) SlotTable.empty

/-- The slots of a pool as configured. -/
def slotTable (c : Config) (pool : Pool) : Except Invalid SlotTable := (c.layOut pool).1

/-! ## The rules -/

/-- An error unless a condition holds. -/
def require (condition : Prop) [Decidable condition] (err : Invalid) : Except Invalid Unit :=
  if condition then .ok () else .error err

/-- Every rule but those on the placing of backends, in order. -/
def checkSections (c : Config) : Except Invalid Unit := do
  let p := c.ports
  require (p.mediaStart ≤ p.mediaEnd) (.emptyMediaRange p.mediaStart p.mediaEnd)
  require (p.signaling ≠ 0 ∧ p.signalingTls ≠ 0 ∧ p.api ≠ 0) .zeroPort
  require (¬(p.mediaStart ≤ p.signaling ∧ p.signaling ≤ p.mediaEnd))
    (.signalingInMediaRange p.signaling)
  require (p.signalingTls ≠ p.api) (.sameTcpPort p.api)
  require (c.rateLimit.windowMs ≠ 0) .zeroWindow
  require (c.rateLimit.tableCapacity ≠ 0) .zeroCapacity
  require (c.rateLimit.sweepIntervalSecs = 0 ∨ c.rateLimit.sweepIdleWindows ≠ 0) .zeroIdleWindows
  for pool in Pool.all do
    require (1 ≤ (c.slots pool).toNat ∧ (c.slots pool).toNat ≤ VoiceSteering.slotCount)
      (.slotCount pool (c.slots pool))
  require (c.reporting.intervalSecs ≠ 0) .zeroReportInterval
  if c.checks.enabled then
    require (c.checks.intervalSecs ≠ 0 ∧ c.checks.timeoutMs ≠ 0) .zeroCheckTiming
    require (c.checks.healthyThreshold ≠ 0 ∧ c.checks.unhealthyThreshold ≠ 0) .zeroThreshold

/-- Checks every rule.  The warnings are those of the pools that were laid out. -/
def check (c : Config) : Except Invalid Unit × List Unreachable :=
  match c.checkSections with
  | .error err => (.error err, [])
  | .ok () =>
    match c.layOut .signaling with
    | (.error err, warnings) => (.error err, warnings)
    | (.ok _, warnings) =>
      match c.layOut .api with
      | (.error err, more) => (.error err, warnings ++ more)
      | (.ok _, more) => (.ok (), warnings ++ more)

/-- Whether a configuration breaks no rule. -/
def isAccepted (c : Config) : Bool := c.check.1.isOk

end VoiceSteering.Config
