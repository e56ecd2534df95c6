/-
# Backends in and out of rotation

An operator edits the slots of a pool while health passes take backends out of rotation and bring
them back.  Nothing but the histories says which inactive backends a pass took out, so whatever
happens, a backend that is out of rotation has to have an unhealthy history of its own endpoint:
otherwise no pass would ever check it again.

The other way round the two can part.  An edit that fills a slot with the endpoint it holds already
sets the active flag and leaves the history unhealthy.  From then on failures find nothing to change.
-/
import Mathlib.Data.List.Perm.Subperm
import VoiceSteering.Proofs.Health.Slot
import VoiceSteering.Proofs.Pool.Script

namespace VoiceSteering

/-- The slots of a pool with the histories of their checks. -/
structure Rotation where
  table : SlotTable
  health : PoolHealth := PoolHealth.fresh

namespace Rotation

/-- Something that happens to a pool in rotation. -/
inductive Step where
  /-- Fills a slot, or empties it when no backend is given. -/
  | edit (slot : ℕ) (backend : Option Backend)
  /-- A health pass, with the results of its checks. -/
  | pass (results : List (ℕ × Bool))

def Step.isPass : Step → Bool
  | edit _ _ => false
  | pass _ => true

/-- The slots that a pass checks. -/
def checks (r : Rotation) : List (ℕ × Endpoint) := (PoolHealth.targets r.health r.table).2

def edit (r : Rotation) (slot : ℕ) (backend : Option Backend) : Rotation :=
  { r with table := r.table.edited slot backend }

def pass (policy : HealthPolicy) (r : Rotation) (results : List (ℕ × Bool)) : Rotation :=
  let applied := PoolHealth.apply policy (PoolHealth.targets r.health r.table).1 r.table results
  ⟨applied.table, applied.health⟩

def perform (policy : HealthPolicy) (r : Rotation) : Step → Rotation
  | .edit slot backend => r.edit slot backend
  | .pass results => r.pass policy results

/-- The pool after some steps. -/
def run (policy : HealthPolicy) (r : Rotation) (steps : List Step) : Rotation :=
  steps.foldl (perform policy) r

/-- Edits fill slots with usable backends only, and a pass has at most one result for each slot
that it checks, in any order. -/
def Allows (r : Rotation) : Step → Prop
  | .edit _ backend => ∀ b, backend = some b → b.isUsable = true
  | .pass results => (results.map Prod.fst).Subperm (r.checks.map Prod.fst)

/-- Every step of a run is allowed when its turn comes. -/
def AllowsAll (policy : HealthPolicy) : Rotation → List Step → Prop
  | _, [] => True
  | r, step :: steps => r.Allows step ∧ AllowsAll policy (r.perform policy step) steps

instance decidableAllows (r : Rotation) : DecidablePred r.Allows
  | .edit _ none => isTrue nofun
  | .edit _ (some b) =>
    decidable_of_iff (b.isUsable = true)
      ⟨fun husable _ hb => Option.some.inj hb ▸ husable, fun hall => hall b rfl⟩
  | .pass results =>
    inferInstanceAs (Decidable ((results.map Prod.fst).Subperm (r.checks.map Prod.fst)))

instance decidableAllowsAll (policy : HealthPolicy) :
    (r : Rotation) → (steps : List Step) → Decidable (AllowsAll policy r steps)
  | _, [] => isTrue trivial
  | r, step :: steps =>
    have := decidableAllowsAll policy (r.perform policy step) steps
    inferInstanceAs (Decidable (r.Allows step ∧ AllowsAll policy (r.perform policy step) steps))

/-! ### One slot -/

def slotState (r : Rotation) (i : Fin 16) : SlotState :=
  ⟨r.health.get i, r.table.get i⟩

variable {policy : HealthPolicy} {r : Rotation} {i : Fin 16} {ok : Bool}
  {results : List (ℕ × Bool)} {steps : List Step}

lemma slotState_edit_of_ne (r : Rotation) {slot : ℕ} (backend : Option Backend) (hne : slot ≠ i) :
    (r.edit slot backend).slotState i = r.slotState i := by
  exact congrArg (SlotState.mk (r.health.get i))
    (SlotTable.getElem_edited_of_ne r.table backend hne i.2)

lemma slotState_edit_self {backend : Option Backend} (hallowed : r.Allows (.edit i backend)) :
    (r.edit i backend).slotState i = ⟨r.health.get i, backend.getD Backend.empty⟩ := by
  have hfilled : ∀ b, backend = some b → b.address ≠ 0 :=
    fun b hb => (Backend.isUsable_iff.1 (hallowed b hb)).2
  exact congrArg (SlotState.mk (r.health.get i))
    (SlotTable.getElem_edited_self r.table i.2 hfilled)

lemma followed_slotState (r : Rotation) (i : Fin 16) :
    (r.slotState i).followed =
      ⟨(PoolHealth.targets r.health r.table).1.get i, r.table.get i⟩ := by
  rw [PoolHealth.getElem_targets]
  rfl

lemma slotState_pass_of_notMem (hi : (i : ℕ) ∉ results.map Prod.fst) :
    (r.pass policy results).slotState i = (r.slotState i).followed := by
  rw [followed_slotState]
  exact PoolHealth.slotState_apply_of_notMem hi

lemma slotState_pass_of_mem (policy : HealthPolicy) (hallowed : r.Allows (.pass results))
    (hmem : ((i : ℕ), ok) ∈ results) :
    (r.pass policy results).slotState i = (r.slotState i).followed.settled policy ok := by
  obtain ⟨slots, hperm, hsub⟩ := hallowed
  have hnodup := hperm.nodup_iff.1 (hsub.nodup (PoolHealth.nodup_targets _ _))
  rw [followed_slotState]
  exact PoolHealth.slotState_apply_of_mem hnodup hmem

/-- Only a slot worth checking has a result. -/
lemma exists_worthChecking (hallowed : r.Allows (.pass results))
    (hmem : ((i : ℕ), ok) ∈ results) :
    ∃ e, PoolHealth.worthChecking (r.slotState i).followed.health (r.slotState i).backend =
      some e := by
  have hslot : (i : ℕ) ∈ r.checks.map Prod.fst :=
    List.Subperm.subset hallowed (List.mem_map_of_mem hmem)
  obtain ⟨⟨slot, e⟩, hcheck, rfl⟩ := List.mem_map.1 hslot
  obtain ⟨hlt, he⟩ := PoolHealth.mem_targets_iff.1 hcheck
  exact ⟨e, he⟩

end Rotation

/-! ### Inactive backends are tracked -/

namespace SlotState

/-- A backend that is out of rotation has an unhealthy history of its own endpoint. -/
def Tracked (s : SlotState) : Prop :=
  s.backend.address ≠ 0 → s.backend.isActive = false → s.Stands false false

variable {s : SlotState} {healthy : Bool}

lemma tracked_of_active (hactive : s.backend.isActive = true) : s.Tracked :=
  fun _ hinactive => absurd (hactive.symm.trans hinactive) (by simp)

lemma Tracked.followed (h : s.Tracked) : s.followed.Tracked := by
  intro hfilled hinactive
  have hdown := h hfilled hinactive
  rwa [followed_of_current hdown.current hfilled]

lemma Stands.tracked_of_eq {state : Bool} (h : s.Stands state state) : s.Tracked := by
  cases state with
  | true => exact tracked_of_active h.active_eq
  | false => exact fun _ _ => h

/-- A result keeps a slot tracked that was worth checking. -/
lemma tracked_settled {e : Endpoint} (policy : HealthPolicy) (ok : Bool)
    (hcheck : PoolHealth.worthChecking s.followed.health s.backend = some e) :
    (s.followed.settled policy ok).Tracked := by
  rcases stands_of_worthChecking hcheck with hup | hrenewed | hdown
  · exact (hup.settled policy ok).elim Stands.tracked_of_eq Stands.tracked_of_eq
  · exact (hrenewed.settled policy ok).elim (fun h => tracked_of_active h.active_eq) Stands.tracked_of_eq
  · exact (hdown.settled policy ok).elim Stands.tracked_of_eq Stands.tracked_of_eq

end SlotState

namespace Rotation

variable {policy : HealthPolicy} {r : Rotation} {i : Fin 16} {steps : List Step}

lemma tracked_perform {step : Step} (h : (r.slotState i).Tracked) (hallowed : r.Allows step) :
    ((r.perform policy step).slotState i).Tracked := by
  cases step with
  | edit slot backend =>
    rw [perform]
    rcases eq_or_ne slot i with rfl | hne
    · rw [slotState_edit_self hallowed]
      cases backend with
      | none => exact fun hfilled => absurd rfl hfilled
      | some b => exact SlotState.tracked_of_active (Backend.isUsable_iff.1 (hallowed b rfl)).1
    · rwa [slotState_edit_of_ne r backend hne]
  | pass results =>
    rw [perform]
    by_cases hresult : (i : ℕ) ∈ results.map Prod.fst
    · obtain ⟨⟨slot, ok⟩, hmem, rfl⟩ := List.mem_map.1 hresult
      obtain ⟨e, hcheck⟩ := exists_worthChecking hallowed hmem
      rw [slotState_pass_of_mem policy hallowed hmem]
      exact SlotState.tracked_settled policy ok hcheck
    · rw [slotState_pass_of_notMem hresult]
      exact h.followed

lemma tracked_run (h : (r.slotState i).Tracked) (hallowed : AllowsAll policy r steps) :
    ((r.run policy steps).slotState i).Tracked := by
  induction steps generalizing r with
  | nil => exact h
  | cons step steps ih => exact ih (tracked_perform h hallowed.1) hallowed.2

end Rotation

end VoiceSteering
