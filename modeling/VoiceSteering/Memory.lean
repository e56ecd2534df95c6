/-
# A data path in memory

The maps of the data path as plain values: the slots and look-up table of each pool, a rate table,
one set of counters and a clock.  Packets run against it one after the other.
-/
import VoiceSteering.Maglev
import VoiceSteering.Pipeline
import VoiceSteering.Rate.Sweep

namespace VoiceSteering

/-- What the pipeline reads and writes besides the frame. -/
structure Memory where
  slots : PerPool SlotTable := ⟨SlotTable.empty, SlotTable.empty⟩
  maglev : PerPool Maglev.Table := ⟨Maglev.Table.blank, Maglev.Table.blank⟩
  rates : Rate.Table := {}
  counters : Counters := Counters.zero
  clock : UInt64 := 0

namespace Memory

/-- The memory with the slots of a pool replaced and its look-up table rebuilt from them. -/
def replacePool (m : Memory) (pool : Pool) (table : SlotTable) : Memory :=
  { m with
    slots := m.slots.set pool table
    maglev := m.maglev.set pool (Maglev.buildTable table.toList) }

/-- The memory with the look-up table of a pool rebuilt. -/
def rebuild (m : Memory) (pool : Pool) : Memory := m.replacePool pool (m.slots.get pool)

end Memory

instance : Datapath Memory where
  lookup m source := (m.rates.records.find? source, m)
  update m source r := { m with rates := Rate.Store.update m.rates source r }
  insert m source r :=
    let (taken, rates) := m.rates.insert source r
    (taken, { m with rates })
  now m := m.clock
  backend m pool slot := (m.slots.get pool)[slot]?
  maglevEntry m pool index := (m.maglev.get pool)[index]?
  count m c n := { m with counters := m.counters.add c n }

end VoiceSteering
