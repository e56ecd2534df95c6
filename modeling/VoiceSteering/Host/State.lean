/-
# The host

Everything a command or a run of the balancer acts on: the kernel, the files, the network and the
clock, with the faults in force and the events told so far.  An action on the host may fail and
still have had effects.
-/
import VoiceSteering.Event
import VoiceSteering.Host.Files
import VoiceSteering.Host.Network

namespace VoiceSteering

/-- The host of the balancer. -/
structure Host where
  kernel : Kernel.State := {}
  files : FileTree := {}
  network : Network := {}
  faults : Kernel.Faults := []
  /-- Milliseconds since the start. -/
  clockMs : Nat := 0
  /-- The monotonic clock at the start, in nanoseconds. -/
  bootNs : Nat := 1000000000000
  /-- What was told, the latest first. -/
  events : List Event := []

namespace Host

/-- The last reading of the monotonic clock, more than a century of nanoseconds. -/
def lastMonotonicNs : Nat := 0x4000000000000000

/-- The monotonic clock, in nanoseconds. -/
def monotonicNs (h : Host) : UInt64 :=
  UInt64.ofNat (min lastMonotonicNs (h.bootNs + h.clockMs * 1000000))

/-- The instant of universal time at which the host is. -/
def instant (h : Host) : Instant := ⟨h.clockMs / 1000, h.clockMs % 1000 * 1000000⟩

/-- Tells an event. -/
def tell (h : Host) (e : Event) : Host := { h with events := e :: h.events }

/-- The events told and the calls made since the last time, in order. -/
def drain (h : Host) : (List Event × List Kernel.Action) × Host :=
  ((h.events.reverse, h.kernel.actions.reverse),
    { h with events := [], kernel := { h.kernel with actions := [] } })

/-- Removes a file and says whether that worked. -/
def removeFile (h : Host) (path : String) : Bool × Host :=
  match h.files.removeFile path with
  | .ok files => (true, { h with files })
  | .error _ => (false, h)

/-- Copies a file and says whether that worked.  The copy of a pin stands for a map of its own,
which starts with what the other one holds. -/
def copyFile (h : Host) (source target : String) : Bool × Host :=
  match h.files.copyFile source target h.kernel.maps.size with
  | .error _ => (false, h)
  | .ok files =>
    match (h.files.openPin? source).bind h.kernel.map?, files.openPin? target with
    | some m, some id => (true, { h with files, kernel := h.kernel.place id m })
    | _, _ => (true, { h with files })

end Host

/-- An action on the host. -/
abbrev HostAction (α : Type) := ExceptT Failure (StateM Host) α

namespace HostAction

variable {α : Type}

/-- Tells an event. -/
def tell (e : Event) : HostAction Unit := modify fun h => h.tell e

/-- Changes the kernel. -/
def modifyKernel (f : Kernel.State → Kernel.State) : HostAction Unit :=
  modify fun h => { h with kernel := f h.kernel }

/-- An action whose failures happen during a stage. -/
def during (stage : Stage) (action : HostAction α) : HostAction α :=
  tryCatch action fun cause => throw (.during stage cause)

/-- The result of an action, which has not failed then. -/
def attempt (action : HostAction α) : HostAction (Except Failure α) :=
  tryCatch (Except.ok <$> action) fun cause => return .error cause

/-- Runs an operation on the slots of a pool. -/
def runOnSlots (backends : Kernel.MapId) (script : PoolScript α) : HostAction α := do
  let h ← get
  let (result, kernel) := h.kernel.runOnSlots h.faults backends script
  set { h with kernel }
  MonadExcept.ofExcept result

/-- Runs an operation on both maps of a pool. -/
def runPool (backends maglev : Kernel.MapId) (script : PoolScript α) : HostAction α := do
  let h ← get
  let (result, kernel) := h.kernel.runPool h.faults backends maglev script
  set { h with kernel }
  MonadExcept.ofExcept result

end HostAction

end VoiceSteering
