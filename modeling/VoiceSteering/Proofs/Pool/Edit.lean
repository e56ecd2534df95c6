/-
# Two edits of one pool

Edits of different slots can be made in either order.  An edit of a table that is on its way from
the slots before both edits to those after them leaves open one slot only, that of the other edit:
what comes out has missed the other edit or has it.
-/
import Mathlib.Tactic.Common
import VoiceSteering.Proofs.Pool.Script

namespace VoiceSteering

lemma SlotTable.ext_slots {table table' : SlotTable} (h : ∀ i : Fin 16, table.get i = table'.get i) :
    table = table' :=
  Vector.ext fun i hi => h ⟨i, hi⟩

/-- An edit of one slot that is allowed. -/
structure PoolEdit where
  slot : Fin 16
  backend : Option Backend
  allowed : ∀ b, backend = some b → b.address ≠ 0

namespace PoolEdit

/-- What the slot holds after the edit. -/
def content (e : PoolEdit) : Backend := e.backend.getD Backend.empty

def apply (e : PoolEdit) (table : SlotTable) : SlotTable := table.set e.slot e.content e.slot.isLt

/-- The update that makes the edit. -/
def script (e : PoolEdit) : PoolScript Unit := .update e.slot e.backend

/-- What is left of the update once all slots have been read. -/
def store (e : PoolEdit) (read : SlotTable) : PoolScript Unit :=
  .writeSlot e.slot e.content (.writeMaglev (e.apply read))

lemma script_eq (e : PoolEdit) : e.script = PoolScript.list.andThen e.store := by
  rw [script, PoolScript.update]
  refine congrArg PoolScript.list.andThen (funext fun read => ?_)
  have hedit : read.withSlot e.slot e.backend = .ok (e.apply read) :=
    SlotTable.withSlot_eq_ok_iff.2 ⟨e.allowed, e.slot.isLt, rfl⟩
  rw [hedit]
  simp only [e.slot.isLt, dif_pos, store, apply, Vector.getElem_set_self]

variable (edits : Bool → PoolEdit) (table : SlotTable)

/-- The slots after both edits. -/
def applyBoth : SlotTable := (edits true).apply ((edits false).apply table)

variable {edits table} (hslots : (edits false).slot ≠ (edits true).slot)

lemma getElem_apply_self (e : PoolEdit) (table : SlotTable) : (e.apply table).get e.slot = e.content :=
  Vector.getElem_set_self _

lemma getElem_apply_of_ne (e : PoolEdit) (table : SlotTable) {i : Fin 16} (hne : i ≠ e.slot) :
    (e.apply table).get i = table.get i :=
  Vector.getElem_set_ne _ _ fun h => hne (Fin.ext h.symm)

include hslots in
lemma slot_not_ne (who : Bool) : (edits (!who)).slot ≠ (edits who).slot := by
  cases who with
  | false => exact hslots.symm
  | true => exact hslots

include hslots in
/-- It does not matter which edit is made first. -/
lemma applyBoth_eq (who : Bool) (table : SlotTable) :
    applyBoth edits table = (edits (!who)).apply ((edits who).apply table) := by
  cases who with
  | false => rfl
  | true => exact Vector.set_comm _ _ fun h => hslots (Fin.ext h)

include hslots in
lemma getElem_applyBoth_self (who : Bool) (table : SlotTable) :
    (applyBoth edits table).get (edits who).slot = (edits who).content := by
  rw [applyBoth_eq hslots, getElem_apply_of_ne _ _ (slot_not_ne hslots who).symm]
  exact getElem_apply_self ..

/-- Every slot of `t` is as it was, or as it is after both edits. -/
def Between (edits : Bool → PoolEdit) (table t : SlotTable) : Prop :=
  ∀ i : Fin 16, t.get i = table.get i ∨ t.get i = (applyBoth edits table).get i

variable {t : SlotTable}

lemma Between.refl : Between edits table table := fun _ => .inl rfl

include hslots in
lemma Between.edit (h : Between edits table t) (who : Bool) :
    Between edits table ((edits who).apply t) := by
  intro i
  rcases eq_or_ne i (edits who).slot with rfl | hne
  · right
    rw [getElem_apply_self, getElem_applyBoth_self hslots]
  · rw [getElem_apply_of_ne _ _ hne]
    exact h i

include hslots in
/-- Only the slot of the other edit may still differ. -/
lemma Between.getElem_apply (h : Between edits table t) {who : Bool} {i : Fin 16}
    (hother : i ≠ (edits (!who)).slot) :
    ((edits who).apply t).get i = (applyBoth edits table).get i := by
  rcases eq_or_ne i (edits who).slot with rfl | hne
  · rw [getElem_apply_self, getElem_applyBoth_self hslots]
  · have hsame : (applyBoth edits table).get i = table.get i := by
      rw [applyBoth_eq hslots who, getElem_apply_of_ne _ _ hother, getElem_apply_of_ne _ _ hne]
    have hi := h i
    rw [hsame, or_self] at hi
    rw [hsame, getElem_apply_of_ne _ _ hne, hi]

include hslots in
/-- An edit of such a table either misses the other edit or comes after it. -/
lemma Between.apply_eq (h : Between edits table t) (who : Bool) :
    (edits who).apply t = (edits who).apply table ∨
      (edits who).apply t = applyBoth edits table := by
  have hother := slot_not_ne hslots who
  -- all depends on what the slot of the other edit holds
  refine (h (edits (!who)).slot).imp (fun hmissed => ?_) fun hseen => ?_
  all_goals refine SlotTable.ext_slots fun i => ?_
  · rcases eq_or_ne i (edits (!who)).slot with rfl | hne
    · rw [getElem_apply_of_ne _ _ hother, getElem_apply_of_ne _ _ hother, hmissed]
    · rw [h.getElem_apply hslots hne, Between.refl.getElem_apply hslots hne]
  · rcases eq_or_ne i (edits (!who)).slot with rfl | hne
    · rw [getElem_apply_of_ne _ _ hother, hseen]
    · exact h.getElem_apply hslots hne

include hslots in
lemma Between.eq_applyBoth (h : Between edits table t)
    (hcontent : ∀ who, t.get (edits who).slot = (edits who).content) : t = applyBoth edits table := by
  have hedited : (edits false).apply t = t := by
    rw [PoolEdit.apply, ← hcontent false]
    exact Vector.set_getElem_self _
  refine SlotTable.ext_slots fun i => ?_
  rcases eq_or_ne i (edits true).slot with rfl | hne
  · rw [hcontent, getElem_applyBoth_self hslots]
  · have hother : i ≠ (edits (!false)).slot := hne
    rw [← h.getElem_apply hslots hother, hedited]

end PoolEdit

end VoiceSteering
