/-
# Populating a table without cursors

The rule behind a look-up table knows no cursors: in its turn a backend goes through its whole
preference list from the start and claims the first entry that no earlier turn has claimed, and
turns are taken until every entry is claimed.  A fill with cursors does the same, because everything
before a cursor is taken: nobody misses an entry by not looking back, and both stop with the turn
that claims the last entry.
-/
import Mathlib.Tactic.Common
import VoiceSteering.Proofs.Maglev.Fill

namespace VoiceSteering.Maglev

/-! ### The rule -/

/-- By which slot each entry has been claimed. -/
abbrev Owners := Vector (Option ℕ) 4099

namespace Owners

def unclaimed : Owners := Vector.replicate 4099 none

def isUnclaimed (o : Owners) (entry : ℕ) : Bool := o[entry]? == some none

/-- How many entries nobody has claimed. -/
def left (o : Owners) : ℕ := o.toList.count none

def claim (o : Owners) (slot entry : ℕ) : Owners := o.setIfInBounds entry (some slot)

end Owners

lemma Owners.count_claim {o : Owners} {entry : ℕ} (hentry : o.isUnclaimed entry = true)
    (slot : ℕ) (owner : Option ℕ) :
    (o.claim slot entry).toList.count owner =
      o.toList.count owner - (if none = owner then 1 else 0) +
        if some slot = owner then 1 else 0 := by
  obtain ⟨hlt, hnone⟩ := Vector.getElem?_eq_some_iff.1 (beq_iff_eq.1 hentry)
  have hlength : entry < o.toList.length := hlt.trans_eq Vector.length_toList.symm
  have hentry' : o.toList[entry] = none := by rw [Vector.getElem_toList, hnone]
  rw [claim, Vector.toList_setIfInBounds, List.count_set hlength, hentry']
  simp only [beq_iff_eq]

def Table.owners (t : Table) : Owners :=
  t.map fun entry => if entry = maglevEmpty then none else some entry.toNat

lemma Table.owners_blank : Table.blank.owners = Owners.unclaimed := by
  rw [blank, owners, Vector.map_replicate, if_pos rfl, Owners.unclaimed]

variable {start : List Claimant} {k i j : ℕ} {fill : Fill} {c : Claimant}

lemma Fill.isUnclaimed_owners (fill : Fill) (entry : ℕ) :
    fill.table.owners.isUnclaimed entry = fill.isFree entry := by
  rw [Owners.isUnclaimed, Table.owners, Vector.getElem?_map, isFree]
  cases fill.table[entry]? with
  | none => rfl
  | some e => by_cases hempty : e = maglevEmpty <;> simp [hempty]

lemma Fill.owners_claim (fill : Fill) (i : ℕ) (hslot : c.slot < 2 ^ 32 - 1) (j : ℕ) :
    (fill.claim i c j).table.owners = fill.table.owners.claim c.slot (c.preference j) := by
  have htoNat : (UInt32.ofNat c.slot).toNat = c.slot :=
    UInt32.toNat_ofNat_of_lt' (by rw [UInt32.size]; omega)
  have hne : UInt32.ofNat c.slot ≠ maglevEmpty := by
    intro heq
    rw [heq, maglevEmpty] at htoNat
    simp at htoNat
    omega
  rw [claim, Table.owners, Vector.map_setIfInBounds, if_neg hne, htoNat]
  rfl

/-! ### One turn -/

end VoiceSteering.Maglev
