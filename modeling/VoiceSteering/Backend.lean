/-
# Backends and their slots

A pool has sixteen slots.  Each holds one backend record, and the record of zeros stands for an
empty slot.  Only a record that is flagged active and has an address may receive traffic.
-/
import VoiceSteering.Net.Mac
import VoiceSteering.Settings
import VoiceSteering.Text.Column

namespace VoiceSteering

/-- One record of a backend map. -/
structure Backend where
  address : Address := 0
  port : UInt16 := 0
  weight : UInt16 := 0
  connections : UInt64 := 0
  mac : Mac := Mac.zero
  flags : UInt8 := 0
  reserved : UInt8 := 0
deriving DecidableEq, Repr

namespace Backend

/-- The flag of a slot that may be selected. -/
def activeFlag : UInt8 := 1

/-- The flag of a record whose link-layer address is known. -/
def macFlag : UInt8 := 2

/-- The empty slot. -/
def empty : Backend := {}

/-- Whether the record is flagged as one that may be selected. -/
def isActive (b : Backend) : Bool := b.flags &&& activeFlag != 0

/-- Whether the slot may receive traffic.  A zero address never does. -/
def isUsable (b : Backend) : Bool := b.isActive && b.address != 0

theorem isUsable_iff {b : Backend} : b.isUsable = true ↔ b.isActive = true ∧ b.address ≠ 0 := by
  rw [isUsable, Bool.and_eq_true, bne_iff_ne]

/-- The link-layer address, if it is known. -/
def mac? (b : Backend) : Option Mac := if b.flags &&& macFlag != 0 then some b.mac else none

/-- The record with the active flag set. -/
def activate (b : Backend) : Backend := { b with flags := b.flags ||| activeFlag }

/-- The record with the active flag cleared. -/
def deactivate (b : Backend) : Backend := { b with flags := b.flags &&& ~~~activeFlag }

/-- Where the backend listens; nothing for a zero address. -/
def endpoint? (b : Backend) : Option Endpoint :=
  if b.address = 0 then none else some ⟨b.address, b.port⟩

theorem endpoint?_of_ne {b : Backend} (h : b.address ≠ 0) :
    b.endpoint? = some ⟨b.address, b.port⟩ := if_neg h

/-! ### The active flag -/

theorem or_and_activeFlag (flags : UInt8) : (flags ||| activeFlag) &&& activeFlag = activeFlag := by
  refine UInt8.toBitVec_inj.1 (BitVec.eq_of_getElem_eq fun i hi => ?_)
  rw [UInt8.toBitVec_and, UInt8.toBitVec_or, BitVec.getElem_and, BitVec.getElem_or]
  cases flags.toBitVec[i] <;> simp

theorem or_and_not_activeFlag (flags : UInt8) :
    (flags ||| activeFlag) &&& ~~~activeFlag = flags &&& ~~~activeFlag := by
  refine UInt8.toBitVec_inj.1 (BitVec.eq_of_getElem_eq fun i hi => ?_)
  simp [Bool.and_or_distrib_right]

@[simp] theorem isActive_activate (b : Backend) : b.activate.isActive = true := by
  rw [isActive, activate, or_and_activeFlag]
  rfl

@[simp] theorem isActive_deactivate (b : Backend) : b.deactivate.isActive = false := by
  simp [isActive, deactivate, UInt8.and_assoc]

@[simp] theorem deactivate_activate (b : Backend) : b.activate.deactivate = b.deactivate := by
  simp only [deactivate, activate, or_and_not_activeFlag]

@[simp] theorem deactivate_deactivate (b : Backend) : b.deactivate.deactivate = b.deactivate := by
  simp [deactivate, UInt8.and_assoc]

/-- The line of a slot in a listing. -/
def row (slot : Nat) (b : Backend) : String :=
  let number := Text.alignRight 2 (toString slot)
  if b.address = 0 then s!"{number}  -"
  else
    let mac := match b.mac? with
      | some m => s!" mac={m.render}"
      | none => ""
    let down := if b.isUsable then "" else " (down)"
    s!"{number}  {Address.render b.address}:{b.port.toNat}  " ++
      s!"weight={b.weight.toNat} connections={b.connections.toNat}{mac}{down}"

end Backend

/-- The slots of a pool. -/
abbrev SlotTable := Vector Backend 16

/-- Why a slot cannot be edited as asked. -/
inductive SlotError where
  /-- The pool has no such slot. -/
  | outOfRange (slot : Nat)
  /-- Only an empty slot has the zero address. -/
  | zeroAddress
deriving DecidableEq, Repr

def SlotError.message : SlotError → String
  | outOfRange slot => s!"slot {slot} out of range, pools have {slotCount} slots"
  | zeroAddress => "backend address 0.0.0.0 is not allowed"

namespace SlotTable

/-- A pool of empty slots. -/
def empty : SlotTable := Vector.replicate 16 Backend.empty

/-- The table with one slot filled, or emptied when no backend is given. -/
def withSlot (table : SlotTable) (slot : Nat) (backend : Option Backend) :
    Except SlotError SlotTable :=
  if h : slot < 16 then
    match backend with
    | none => .ok (table.set slot Backend.empty)
    | some b => if b.address = 0 then .error .zeroAddress else .ok (table.set slot b)
  else .error (.outOfRange slot)

/-- How many slots may receive traffic. -/
def usableCount (table : SlotTable) : Nat := table.toList.countP Backend.isUsable

/-- The lines of a listing. -/
def rows (table : SlotTable) : List String :=
  table.toList.mapIdx fun slot b => b.row slot

end SlotTable

end VoiceSteering
