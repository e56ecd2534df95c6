/-
# Access to the maps of a pool

A pool has two maps that several processes may share: the backend records by slot and the look-up
table built from them.  An operation on a pool is a script of single element reads and writes, so
that its steps can be interleaved with those of another operation.  Running a script alone, on
maps that may refuse an access, is a function on the two maps.
-/
import VoiceSteering.Failure
import VoiceSteering.Maglev

namespace VoiceSteering

/-- The two maps of a pool. -/
structure PoolMaps where
  slots : SlotTable
  maglev : Maglev.Table

/-- An access to one element of a pool's maps. -/
inductive PoolAccess where
  | readSlot (slot : Nat)
  | writeSlot (slot : Nat)
  | writeEntry (index : Nat)
deriving DecidableEq, Repr

/-- What is being done during an access. -/
def PoolAccess.stage : PoolAccess → Stage
  | readSlot slot => .readSlot slot
  | writeSlot slot => .writeSlot slot
  | writeEntry index => .writeMaglevEntry index

/-- An operation on a pool: single accesses, then a result. -/
inductive PoolScript (α : Type) where
  | done (a : α)
  | fail (e : Failure)
  | readSlot (slot : Fin 16) (next : Backend → PoolScript α)
  | writeSlot (slot : Fin 16) (b : Backend) (next : PoolScript α)
  | writeEntry (index : Fin 4099) (entry : UInt32) (next : PoolScript α)

namespace PoolScript

variable {α β : Type}

/-- One script after another. -/
def andThen : PoolScript α → (α → PoolScript β) → PoolScript β
  | done a, f => f a
  | fail e, _ => .fail e
  | readSlot slot next, f => .readSlot slot fun b => (next b).andThen f
  | writeSlot slot b next, f => .writeSlot slot b (next.andThen f)
  | writeEntry index entry next, f => .writeEntry index entry (next.andThen f)

instance : Monad PoolScript where
  pure := done
  bind := andThen

/-! ## Operations -/

/-- Reads the given slots into a table. -/
def readSlots : List (Fin 16) → SlotTable → PoolScript SlotTable
  | [], table => .done table
  | slot :: slots, table => .readSlot slot fun b => readSlots slots (table.set slot b)

/-- Writes the given slots of a table. -/
def writeSlots (table : SlotTable) : List (Fin 16) → PoolScript Unit
  | [] => .done ()
  | slot :: slots => .writeSlot slot table[slot] (writeSlots table slots)

/-- Writes the given entries of a look-up table. -/
def writeEntries (t : Maglev.Table) : List (Fin 4099) → PoolScript Unit
  | [] => .done ()
  | index :: indices => .writeEntry index t[index] (writeEntries t indices)

/-- Reads all slots, in order. -/
def list : PoolScript SlotTable := readSlots (List.finRange 16) SlotTable.empty

/-- Writes the look-up table of some slots, entry by entry. -/
def writeMaglev (table : SlotTable) : PoolScript Unit :=
  writeEntries (Maglev.buildTable table.toList) (List.finRange 4099)

/-- Writes all slots, then the look-up table. -/
def replace (table : SlotTable) : PoolScript Unit := do
  writeSlots table (List.finRange 16)
  writeMaglev table

/-- Fills or empties one slot: reads all slots, writes the one, then the look-up table of what was
read with the edit. -/
def update (slot : Nat) (backend : Option Backend) : PoolScript Unit := do
  let current ← list
  match current.withSlot slot backend with
  | .error e => .fail (.slot e)
  | .ok table =>
    if h : slot < 16 then .writeSlot ⟨slot, h⟩ table[slot] (writeMaglev table)
    else .fail (.slot (.outOfRange slot))

/-! ## Running -/

/-- Runs a script alone.  An access that the maps refuse ends it; what was written stays. -/
def run (refusal : PoolAccess → Option Failure) : PoolScript α → PoolMaps →
    Except Failure α × PoolMaps
  | done a, maps => (.ok a, maps)
  | fail e, maps => (.error e, maps)
  | readSlot slot next, maps =>
    let access := PoolAccess.readSlot slot
    match refusal access with
    | some e => (.error (.during access.stage e), maps)
    | none => (next maps.slots[slot]).run refusal maps
  | writeSlot slot b next, maps =>
    let access := PoolAccess.writeSlot slot
    match refusal access with
    | some e => (.error (.during access.stage e), maps)
    | none => next.run refusal { maps with slots := maps.slots.set slot b }
  | writeEntry index entry next, maps =>
    let access := PoolAccess.writeEntry index
    match refusal access with
    | some e => (.error (.during access.stage e), maps)
    | none => next.run refusal { maps with maglev := maps.maglev.set index entry }

end PoolScript

end VoiceSteering
