/-
# Selection of a slot

A flow is known by its source address and source port.  Both are folded into one 32-bit word by
two multiplicative rounds, and the word is reduced either to a slot or to an index of a Maglev
look-up table.
-/
import VoiceSteering.Net.Address

namespace VoiceSteering

/-- Slots in each pool of backends. -/
def slotCount : Nat := 16

/-- Entries in a Maglev look-up table: a prime much larger than the number of slots. -/
def maglevSize : Nat := 4099

/-- The Maglev entry to which no slot has been assigned. -/
def maglevEmpty : UInt32 := 0xffffffff

namespace Selection

/-- One multiplicative round. -/
def stir (h : UInt32) : UInt32 := ((h >>> 16) ^^^ h) * 0x45d9f3b

/-- The word of a flow: the port lands in the upper half, then two rounds and a final fold. -/
def mix (source : Address) (port : UInt16) : UInt32 :=
  let h := stir (stir (source ^^^ (port.toUInt32 <<< 16)))
  (h >>> 16) ^^^ h

/-- The slot of a flow among `slots` slots. -/
def slot (source : Address) (port : UInt16) (slots : Nat) : Nat := (mix source port).toNat % slots

/-- The index of a flow in a Maglev table. -/
def maglevIndex (source : Address) (port : UInt16) : Nat := (mix source port).toNat % maglevSize

theorem maglevIndex_lt (source : Address) (port : UInt16) :
    maglevIndex source port < maglevSize := Nat.mod_lt _ (by decide)

/-- The slot named by a Maglev entry; nothing for the empty entry and for slots that no pool
has. -/
def slotOfEntry (entry : UInt32) : Option Nat :=
  if entry.toNat < slotCount then some entry.toNat else none

theorem slotOfEntry_maglevEmpty : slotOfEntry maglevEmpty = none := by decide

end Selection

end VoiceSteering
