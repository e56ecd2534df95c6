/-
# What an action ensures

An action on the host either fails or ends with a result, and leaves the host changed either way.
The contract of an action says what holds of the result and of the host afterwards, if something
holds of the host before; it includes that the action does not fail.
-/
import Mathlib.Tactic.Common
import VoiceSteering.Host.State
import VoiceSteering.Proofs.Kernel.PoolMaps

namespace VoiceSteering

namespace HostAction

variable {α β : Type}

/-- On every host with a property an action ends with a result, and result and host then have
another property. -/
def Ensures (action : HostAction α) (before : Host → Prop) (after : α → Host → Prop) : Prop :=
  ∀ h, before h → ∃ a h', action.run.run h = (.ok a, h') ∧ after a h'

variable {P : Host → Prop} {Q : α → Host → Prop} {R : β → Host → Prop}

lemma ensures_pure {a : α} (ha : ∀ h, P h → Q a h) : Ensures (pure a) P Q :=
  fun h hbefore => ⟨a, h, rfl, ha h hbefore⟩

/-- What holds whatever the host is can be assumed at once. -/
lemma ensures_and {p : Prop} {action : HostAction α} (h : p → Ensures action P Q) :
    Ensures action (fun h => p ∧ P h) Q :=
  fun host hbefore => h hbefore.1 host hbefore.2

lemma Ensures.bind {action : HostAction α} {next : α → HostAction β} (haction : Ensures action P Q)
    (hnext : ∀ a, Ensures (next a) (Q a) R) : Ensures (action >>= next) P R := by
  intro h hbefore
  obtain ⟨a, h', hrun, hbetween⟩ := haction h hbefore
  obtain ⟨b, h'', hrun', hafter⟩ := hnext a h' hbetween
  refine ⟨b, h'', ?_, hafter⟩
  simp only [ExceptT.run_bind, StateT.run_bind, hrun]
  exact hrun'

lemma ensures_tell {e : Event} (htold : ∀ h, P h → P (h.tell e)) :
    Ensures (tell e) P fun _ => P :=
  fun h hbefore => ⟨(), h.tell e, rfl, htold h hbefore⟩

/-- Actions that keep a property one by one keep it together. -/
lemma ensures_forM {ι : Type} {f : ι → HostAction Unit} (hf : ∀ x, Ensures (f x) P fun _ => P)
    (xs : List ι) : Ensures (xs.forM f) P fun _ => P := by
  induction xs with
  | nil => exact ensures_pure fun h hbefore => hbefore
  | cons x xs ih => exact (hf x).bind fun _ => ih

/-- An attempt never fails; its result is how the action ended. -/
lemma run_attempt (action : HostAction α) (h : Host) :
    (attempt action).run.run h = (.ok (action.run.run h).1, (action.run.run h).2) := by
  rcases hrun : action.run.run h with ⟨result, h'⟩
  simp only [attempt, ExceptT.run_tryCatch, ExceptT.run_map, StateT.run_bind, StateT.run_map, hrun]
  cases result with
  | error cause => rfl
  | ok a => rfl

/-- Running an operation on a pool changes nothing but the kernel. -/
lemma run_runPool (backends maglev : Kernel.MapId) (script : PoolScript α) (h : Host) :
    (runPool backends maglev script).run.run h =
      ((h.kernel.runPool h.faults backends maglev script).1,
        { h with kernel := (h.kernel.runPool h.faults backends maglev script).2 }) := by
  let ran := h.kernel.runPool h.faults backends maglev script
  change (MonadExcept.ofExcept ran.1 : HostAction α).run.run { h with kernel := ran.2 } = _
  cases ran.1 with
  | error cause => rfl
  | ok a => rfl

end HostAction

/-! ### The maps of a pool -/

/-- The host has both maps of a pool, with some contents, and no fault is in force. -/
structure Host.HasPool (h : Host) (backends maglev : Kernel.MapId) (maps : PoolMaps) : Prop where
  pool : h.kernel.HasPool backends maglev
  maps_eq : h.kernel.poolMaps backends maglev = maps
  faults_eq : h.faults = []

namespace HostAction

variable {backends maglev : Kernel.MapId}

lemma ensures_tell_pool (e : Event) (maps : PoolMaps) :
    Ensures (tell e) (Host.HasPool · backends maglev maps)
      fun _ h => h.HasPool backends maglev maps :=
  ensures_tell fun _ h => ⟨h.pool, h.maps_eq, h.faults_eq⟩

/-- An operation on a pool does to the maps what its script does. -/
lemma ensures_runPool {α : Type} (script : PoolScript α) (maps : PoolMaps) :
    let ran := script.run PoolScript.granted maps
    Ensures (attempt (runPool backends maglev script)) (Host.HasPool · backends maglev maps)
      fun result h => result = ran.1 ∧ h.HasPool backends maglev ran.2 := by
  rintro ran h ⟨hpool, rfl, hfaults⟩
  refine ⟨_, _, run_attempt _ h, ?_⟩
  rw [run_runPool, hfaults]
  obtain ⟨hresult, hpool', hmaps⟩ := hpool.runPool script
  exact ⟨hresult, hpool', hmaps, rfl⟩

end HostAction

end VoiceSteering
