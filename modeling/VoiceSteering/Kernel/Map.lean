/-
# Kernel maps

A map has a specification, which says how it was created, and contents.  Which contents a map can
hold follows from its role in the balancer; the specification may differ from what the role needs,
and then the map cannot be used in it.
-/
import VoiceSteering.Kernel.Error
import VoiceSteering.Maglev
import VoiceSteering.Counters
import VoiceSteering.Rate.Table

namespace VoiceSteering.Kernel

/-- How a map was created. -/
structure MapSpec where
  name : String
  kind : Nat
  keySize : Nat
  valueSize : Nat
  maxEntries : Nat
deriving DecidableEq, Repr

/-- The number of cores. -/
def coreCount : Nat := 4

/-- What a map holds. -/
inductive Contents where
  | slots (table : SlotTable)
  | maglev (table : Maglev.Table)
  | settings (s : Settings)
  /-- The counters of each core. -/
  | counters (cores : Vector Counters 4)
  /-- The rate records, the one used least recently first. -/
  | rates (records : Rate.Records)

namespace Contents

/-- The slots, if that is what the map holds, and empty slots otherwise. -/
def asSlots : Contents → SlotTable
  | slots table => table
  | _ => SlotTable.empty

def asMaglev : Contents → Maglev.Table
  | maglev table => table
  | _ => Maglev.Table.zeroed

def asSettings : Contents → Settings
  | settings s => s
  | _ => .zeroed

def asCounters : Contents → Vector Counters 4
  | counters cores => cores
  | _ => Vector.replicate 4 Counters.zero

def asRates : Contents → Rate.Records
  | rates records => records
  | _ => []

end Contents

/-- A map. -/
structure BpfMap where
  spec : MapSpec
  contents : Contents

/-- What a map is used for. -/
inductive Role where
  | backends
  | maglev
  | config
  | stats
  | rate
deriving DecidableEq, Repr

namespace Role

/-- What messages call the map. -/
def label : Role → String
  | backends => "backend"
  | maglev => "maglev"
  | config => "config"
  | stats => "stats"
  | rate => "rate"

/-- The kinds of maps that can play the role: arrays, arrays per core, or hash tables with or
without eviction. -/
def kinds : Role → List Nat
  | backends | maglev | config => [2]
  | stats => [6]
  | rate => [1, 9]

/-- The size of a key. -/
def keySize : Nat := 4

/-- The size of a value. -/
def valueSize : Role → Nat
  | backends => 24
  | maglev => 4
  | config => 32
  | stats => 8
  | rate => 16

/-- The contents of a new map. -/
def zeroed : Role → Contents
  | backends => .slots SlotTable.empty
  | maglev => .maglev Maglev.Table.zeroed
  | config => .settings .zeroed
  | stats => .counters (Vector.replicate 4 Counters.zero)
  | rate => .rates []

end Role

/-- Whether a map has the sizes that a role needs. -/
def MapSpec.checkSizes (s : MapSpec) (role : Role) : Except MapError Unit :=
  if s.keySize ≠ Role.keySize then .error (.invalidKeySize Role.keySize s.keySize)
  else if s.valueSize ≠ role.valueSize then
    .error (.invalidValueSize role.valueSize s.valueSize)
  else .ok ()

/-- Whether a map is of a kind and has the sizes that a role needs. -/
def MapSpec.checkRole (s : MapSpec) (role : Role) : Except MapError Unit :=
  if s.kind ∈ role.kinds then s.checkSizes role else .error (.invalidKind s.kind)

end VoiceSteering.Kernel
