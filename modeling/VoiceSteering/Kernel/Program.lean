/-
# The packet program

The pipeline over the maps of the kernel, as one core runs it.  The program does not trust its
maps: a look-up that finds nothing is taken as an answer.
-/
import VoiceSteering.Kernel.State
import VoiceSteering.Pipeline

namespace VoiceSteering.Kernel

/-- The maps of the program, by what they are for. -/
structure ProgramMaps where
  rate : MapId
  backends : PerPool MapId
  maglev : PerPool MapId
  stats : MapId
  config : MapId
deriving DecidableEq, Repr

/-- The kernel as the program sees it on one core. -/
structure View where
  kernel : State
  faults : Faults
  maps : ProgramMaps
  core : Nat

namespace View

/-- Whether a look-up of the program fails. -/
def isBlind (v : View) (map : String) (index : Nat) : Bool :=
  (v.faults.error? .programLookup map (some index)).isSome

/-- The settings in force; the defaults if the record cannot be read. -/
def settings (v : View) : Settings :=
  if v.isBlind configMap 0 then {} else v.kernel.settings v.maps.config

/-- A look-up in the rate table.  What is found becomes the record used most recently. -/
def lookupRate (v : View) (source : Address) : Option Rate.Record × View :=
  if v.isBlind rateMap source.toNat then (none, v)
  else
    match (v.kernel.rates v.maps.rate).find? source with
    | none => (none, v)
    | some r => (some r, { v with kernel := v.kernel.putRate v.maps.rate source r })

/-- Overwrites a record in place. -/
def updateRate (v : View) (source : Address) (r : Rate.Record) : View :=
  let records := (v.kernel.rates v.maps.rate).replace source r
  { v with kernel := v.kernel.setContents v.maps.rate (.rates records) }

def insertRate (v : View) (source : Address) (r : Rate.Record) : Bool × View :=
  if (v.faults.error? .programUpdate rateMap (some source.toNat)).isSome then (false, v)
  else (true, { v with kernel := v.kernel.putRate v.maps.rate source r })

/-- Adds to a counter of the core. -/
def count (v : View) (c : Counter) (n : UInt64) : View :=
  if v.isBlind statsMap c.index.val then v
  else
    let cores := (v.kernel.counters v.maps.stats).toArray.modify v.core fun cs => cs.add c n
    let cores : Vector Counters 4 := Vector.ofFn fun i => cores[i.val]?.getD Counters.zero
    { v with kernel := v.kernel.setContents v.maps.stats (.counters cores) }

end View

instance : Datapath View where
  lookup := View.lookupRate
  update := View.updateRate
  insert := View.insertRate
  now v := v.kernel.programClock
  backend v pool slot :=
    if v.isBlind (backendMap pool) slot then none
    else (v.kernel.slots (v.maps.backends.get pool))[slot]?
  maglevEntry v pool index :=
    if v.isBlind (maglevMap pool) index then none
    else (v.kernel.maglev (v.maps.maglev.get pool))[index]?
  count := View.count

/-- Runs one frame through the program on a core. -/
def View.receive {φ : Type} [Frame.Access φ] (v : View) (frame : φ) : Outcome φ View :=
  process v.settings frame v

end VoiceSteering.Kernel
