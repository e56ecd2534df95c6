/-
# The maps of a pool in the kernel

When both maps of a pool exist and have an entry for every slot and every index, the kernel refuses
no access to them unless a fault is in force.  Then an operation run on these maps does what its
script does on the plain contents.
-/
import Mathlib.Tactic.Common
import VoiceSteering.Kernel.State
import VoiceSteering.Proofs.Pool.Script

namespace VoiceSteering

namespace PoolScript

/-- Every access that a script can make is granted. -/
structure Grants (refusal : PoolAccess → Option Failure) : Prop where
  readSlot : ∀ slot : Fin 16, refusal (.readSlot slot) = none
  writeSlot : ∀ slot : Fin 16, refusal (.writeSlot slot) = none
  writeEntry : ∀ index : Fin 4099, refusal (.writeEntry index) = none

/-- What is refused out of range does not matter. -/
lemma Grants.run_eq {α : Type} {refusal : PoolAccess → Option Failure} (h : Grants refusal)
    (script : PoolScript α) (maps : PoolMaps) : script.run refusal maps = script.run granted maps := by
  induction script generalizing maps with
  | done a => rfl
  | fail e => rfl
  | readSlot slot next ih =>
    simp only [run, h.readSlot, granted]
    exact ih maps.slots[slot] maps
  | writeSlot slot b next ih =>
    simp only [run, h.writeSlot, granted]
    exact ih _
  | writeEntry index entry next ih =>
    simp only [run, h.writeEntry, granted]
    exact ih _

end PoolScript

namespace Kernel.State

variable {k : State} {id other backends maglev : MapId}

/-! ### Contents -/

lemma map?_setContents_self (k : State) (id : MapId) (contents : Contents) :
    (k.setContents id contents).map? id = (k.map? id).map fun m => { m with contents } := by
  rw [map?, setContents, Array.getElem?_modify, if_pos rfl]
  rfl

lemma map?_setContents_of_ne (k : State) (contents : Contents) (hne : id ≠ other) :
    (k.setContents id contents).map? other = k.map? other := by
  rw [map?, setContents, Array.getElem?_modify, if_neg hne]
  rfl

lemma contents_setContents_of_ne (k : State) (contents : Contents) (hne : id ≠ other) :
    (k.setContents id contents).contents other = k.contents other := by
  rw [State.contents, map?_setContents_of_ne k contents hne, State.contents]

/-- A map exists and has a number of entries at least. -/
def HasEntries (k : State) (id : MapId) (count : ℕ) : Prop :=
  ∃ m, k.map? id = some m ∧ count ≤ m.spec.maxEntries

lemma HasEntries.contents_setContents {count : ℕ} (h : k.HasEntries id count)
    (contents : Contents) : (k.setContents id contents).contents id = contents := by
  obtain ⟨m, hm, -⟩ := h
  rw [State.contents, map?_setContents_self, hm]
  rfl

lemma HasEntries.setContents {count : ℕ} (h : k.HasEntries other count) (id : MapId)
    (contents : Contents) : (k.setContents id contents).HasEntries other count := by
  obtain ⟨m, hm, hcount⟩ := h
  rcases eq_or_ne id other with rfl | hne
  · refine ⟨{ m with contents }, ?_, hcount⟩
    rw [map?_setContents_self, hm]
    rfl
  · exact ⟨m, (map?_setContents_of_ne k contents hne).trans hm, hcount⟩

/-- Without faults an access is refused only out of range. -/
lemma HasEntries.arrayError?_eq_none {count index : ℕ} (h : k.HasEntries id count) (call : Call)
    (hindex : index < count) : k.arrayError? [] call id index = none := by
  obtain ⟨m, hm, hcount⟩ := h
  rw [arrayError?, hm]
  dsimp only
  rw [if_neg (Nat.not_le.2 (Nat.lt_of_lt_of_le hindex hcount))]
  rfl

/-! ### Operations on a pool -/

/-- The maps of a pool exist, are not one map, and are as large as the program needs them. -/
structure HasPool (k : State) (backends maglev : MapId) : Prop where
  ne : backends ≠ maglev
  slots : k.HasEntries backends 16
  entries : k.HasEntries maglev 4099

/-- The contents of a pool's maps. -/
def poolMaps (k : State) (backends maglev : MapId) : PoolMaps := ⟨k.slots backends, k.maglev maglev⟩

namespace HasPool

lemma grants (h : k.HasPool backends maglev) : PoolScript.Grants fun access =>
    (k.slotRefusal [] backends access <|> k.maglevRefusal [] maglev access).map Failure.map where
  readSlot slot := by
    rw [slotRefusal, h.slots.arrayError?_eq_none .mapLookup slot.2]
    rfl
  writeSlot slot := by
    rw [slotRefusal, h.slots.arrayError?_eq_none .mapUpdate slot.2]
    rfl
  writeEntry index := by
    rw [maglevRefusal, h.entries.arrayError?_eq_none .mapUpdate index.2]
    rfl

/-- Writing the contents of both maps. -/
lemma setMaps (h : k.HasPool backends maglev) (maps : PoolMaps) :
    let k' := (k.setContents backends (.slots maps.slots)).setContents maglev (.maglev maps.maglev)
    k'.HasPool backends maglev ∧ k'.poolMaps backends maglev = maps := by
  have hentries := h.entries.setContents backends (.slots maps.slots)
  refine ⟨⟨h.ne, (h.slots.setContents _ _).setContents _ _, hentries.setContents _ _⟩, ?_⟩
  rw [poolMaps, State.slots, State.maglev, hentries.contents_setContents,
    contents_setContents_of_ne _ _ h.ne.symm, h.slots.contents_setContents]
  rfl

/-- Without faults, running an operation in the kernel is running its script on the contents. -/
theorem runPool {α : Type} (h : k.HasPool backends maglev) (script : PoolScript α) :
    let ran := script.run PoolScript.granted (k.poolMaps backends maglev)
    let done := k.runPool [] backends maglev script
    done.1 = ran.1 ∧ done.2.HasPool backends maglev ∧ done.2.poolMaps backends maglev = ran.2 := by
  intro ran done
  have hrun := h.grants.run_eq script (k.poolMaps backends maglev)
  have hset := h.setMaps ran.2
  refine ⟨congrArg Prod.fst hrun, ?_⟩
  simp only [done, State.runPool]
  rw [← poolMaps, hrun]
  exact hset

end HasPool

end Kernel.State

end VoiceSteering
