/-
# The state of the kernel

The maps that exist, the interface that the packet program is attached to, and a record of the
calls that succeeded.  A map is known by the number it got when it was created and lives on when
its pins are removed.
-/
import VoiceSteering.Kernel.Object
import VoiceSteering.Pool.Script

namespace VoiceSteering.Kernel

/-- The number of a map. -/
abbrev MapId := Nat

/-- A call that succeeded. -/
inductive Action where
  | created (map : String) (maxEntries : Nat)
  | pinned (map path : String)
  | programLoaded
  | attached (iface : String) (flag : Nat)
  | detached (iface : String)
deriving DecidableEq, Repr

def Action.render : Action → String
  | created map maxEntries => s!"create {map} {maxEntries}"
  | pinned map path => s!"pin {map} {path}"
  | programLoaded => "load program"
  | attached iface flag => s!"attach {iface} {flag}"
  | detached iface => s!"detach {iface}"

/-- The state of the kernel. -/
structure State where
  maps : Array BpfMap := #[]
  /-- The interfaces that exist. -/
  interfaces : List String := ["eth0", "lo"]
  /-- The interface that the packet program is attached to. -/
  attachedTo : Option String := none
  /-- The clock of the packet program, in nanoseconds. -/
  programClock : UInt64 := 0
  /-- The calls that succeeded, the latest first. -/
  actions : List Action := []

/-- An object after loading: its maps by name, and its program. -/
structure Loaded where
  maps : List (String × MapId)
  program : Option ProgramDefinition
deriving DecidableEq, Repr

namespace State

def log (k : State) (a : Action) : State := { k with actions := a :: k.actions }

/-- Creates a map and says its number. -/
def create (k : State) (m : BpfMap) : MapId × State :=
  (k.maps.size, { k with maps := k.maps.push m })

def map? (k : State) (id : MapId) : Option BpfMap := k.maps[id]?

/-- Puts a map in the place of another one, whose name it takes, or else after all maps. -/
def place (k : State) (id : MapId) (m : BpfMap) : State :=
  match k.map? id with
  | some other =>
    let spec := { m.spec with name := other.spec.name }
    { k with maps := k.maps.modify id fun _ => { m with spec } }
  | none => (k.create m).2

/-- Puts other contents into a map. -/
def setContents (k : State) (id : MapId) (contents : Contents) : State :=
  { k with maps := k.maps.modify id fun m => { m with contents } }

/-! ## Views of maps by role -/

/-- The contents of a map; a map that does not exist is like one without records. -/
def contents (k : State) (id : MapId) : Contents :=
  match k.map? id with
  | some m => m.contents
  | none => .rates []

def slots (k : State) (id : MapId) : SlotTable := (k.contents id).asSlots

def maglev (k : State) (id : MapId) : Maglev.Table := (k.contents id).asMaglev

def settings (k : State) (id : MapId) : Settings := (k.contents id).asSettings

def counters (k : State) (id : MapId) : Vector Counters 4 := (k.contents id).asCounters

def rates (k : State) (id : MapId) : Rate.Records := (k.contents id).asRates

/-! ## Access -/

/-- The error of an access to an array at an index: the bounds are checked before the call. -/
def arrayError? (k : State) (faults : Faults) (call : Call) (id : MapId) (index : Nat) :
    Option MapError :=
  match k.map? id with
  | none => none
  | some m =>
    if m.spec.maxEntries ≤ index then some (.outOfBounds index m.spec.maxEntries)
    else (faults.error? call m.spec.name (some index)).map (.failed call)

/-- Whether a map of slots refuses an access. -/
def slotRefusal (k : State) (faults : Faults) (backends : MapId) : PoolAccess → Option MapError
  | .readSlot slot => k.arrayError? faults .mapLookup backends slot
  | .writeSlot slot => k.arrayError? faults .mapUpdate backends slot
  | .writeEntry _ => none

/-- Whether a look-up table refuses an access. -/
def maglevRefusal (k : State) (faults : Faults) (maglev : MapId) : PoolAccess → Option MapError
  | .writeEntry index => k.arrayError? faults .mapUpdate maglev index
  | .readSlot _ | .writeSlot _ => none

/-- Runs an operation on the slots of a pool.  What it writes to the look-up table is lost. -/
def runOnSlots {α : Type} (k : State) (faults : Faults) (backends : MapId)
    (script : PoolScript α) : Except Failure α × State :=
  let (result, maps) := script.run (fun access => (k.slotRefusal faults backends access).map .map)
    ⟨k.slots backends, Maglev.Table.zeroed⟩
  (result, k.setContents backends (.slots maps.slots))

/-- Runs an operation on both maps of a pool. -/
def runPool {α : Type} (k : State) (faults : Faults) (backends maglev : MapId)
    (script : PoolScript α) : Except Failure α × State :=
  let refusal access := (k.slotRefusal faults backends access <|>
    k.maglevRefusal faults maglev access).map Failure.map
  let (result, maps) := script.run refusal ⟨k.slots backends, k.maglev maglev⟩
  (result, (k.setContents backends (.slots maps.slots)).setContents maglev (.maglev maps.maglev))

/-- Writes the settings record. -/
def writeSettings (k : State) (faults : Faults) (id : MapId) (s : Settings) :
    Except MapError State :=
  match k.arrayError? faults .mapUpdate id 0 with
  | some e => .error e
  | none => .ok (k.setContents id (.settings s))

/-- The values that every core holds for a counter. -/
def readCounter (k : State) (faults : Faults) (id : MapId) (c : Counter) :
    Except MapError (List UInt64) :=
  match k.arrayError? faults .mapLookup id c.index.val with
  | some e => .error e
  | none => .ok ((k.counters id).toList.map (·.value c))

/-! ## The rate table -/

/-- The records of the rate table in order, up to the first position that cannot be read. -/
def listRates (k : State) (faults : Faults) (id : MapId) :
    Rate.Records × Option MapError :=
  let name := ((k.map? id).map (·.spec.name)).getD ""
  let records := k.rates id
  let broken := (List.range (records.length + 1)).findSome? fun position =>
    (faults.error? .mapNextKey name (some position)).map fun errno => (position, errno)
  match broken with
  | some (position, errno) => (records.take position, some (.failed .mapNextKey errno))
  | none => (records, none)

/-- Removes a record from the rate table. -/
def removeRate (k : State) (faults : Faults) (id : MapId) (source : Address) :
    Except MapError State :=
  let name := ((k.map? id).map (·.spec.name)).getD ""
  match faults.error? .mapDelete name (some source.toNat) with
  | some errno => .error (.failed .mapDelete errno)
  | none => .ok (k.setContents id (.rates ((k.rates id).erase source)))

/-- The greatest number of records that a rate table holds, however large it was created. -/
def mostRates : Nat := 256

/-- Puts a record at the end of the rate table.  A new source evicts the first record when the
table is full. -/
def putRate (k : State) (id : MapId) (source : Address) (r : Rate.Record) : State :=
  let records := k.rates id
  let capacity := min mostRates (((k.map? id).map (·.spec.maxEntries)).getD 0)
  let kept :=
    if (records.find? source).isSome then records.erase source
    else if capacity ≤ records.length then records.drop 1
    else records
  k.setContents id (.rates (kept ++ [(source, r)]))

end State

end VoiceSteering.Kernel
