/-
# Edits during a health pass

A health pass reads all slots of a pool, waits for the checks of its backends and, if a backend
changed its state, writes the pool back.  Operators may edit the pool meanwhile from other processes.
An edit writes its own slot and no other one.  The pass writes all sixteen slots as it has read them,
so every edit that comes in between is undone, whichever slot the pass had a reason to write.
-/
import VoiceSteering.Proofs.Health.Rotation
import VoiceSteering.Proofs.Host.Action
import VoiceSteering.Service.Session

namespace VoiceSteering.Service

open HostAction (Ensures attempt runPool)
open Maglev (buildTable)

namespace WatchedPool

/-- What the results of the checks make of the slots that a pass has read. -/
def applied (w : WatchedPool) (policy : HealthPolicy) (read : SlotTable)
    (results : List (ℕ × Bool)) : PoolHealth.Applied :=
  PoolHealth.apply policy (PoolHealth.targets w.health read).1 read results

/-- Whether a pass writes the pool: it has something to check, and a backend changes its state. -/
def writesBack (w : WatchedPool) (policy : HealthPolicy) (read : SlotTable)
    (results : List (ℕ × Bool)) : Bool :=
  !(PoolHealth.targets w.health read).2.isEmpty && (w.applied policy read results).changed

/-- The histories after a pass. -/
def healthAfter (w : WatchedPool) (policy : HealthPolicy) (read : SlotTable)
    (results : List (ℕ × Bool)) : PoolHealth :=
  if (PoolHealth.targets w.health read).2.isEmpty then (PoolHealth.targets w.health read).1
  else (w.applied policy read results).health

end WatchedPool

/-- A pass leaves the pool as others have made it meanwhile, or writes what the results make of the
slots that it read. -/
theorem ensures_checkPoolWhile (policy : HealthPolicy) (w : WatchedPool) {meanwhile : HostAction Unit}
    {check : List (ℕ × Endpoint) → HostAction (List (ℕ × Bool))} {read edited : PoolMaps}
    {results : List (ℕ × Bool)}
    (hmeanwhile : Ensures meanwhile (Host.HasPool · w.backends w.maglev read)
      fun _ h => h.HasPool w.backends w.maglev edited)
    (hcheck : ∀ targets, Ensures (check targets) (Host.HasPool · w.backends w.maglev edited)
      fun answer h => answer = results ∧ h.HasPool w.backends w.maglev edited) :
    let table := (w.applied policy read.slots results).table
    Ensures (checkPoolWhile meanwhile check policy w)
      (Host.HasPool · w.backends w.maglev read)
      fun w' h => w' = { w with health := w.healthAfter policy read.slots results } ∧
        h.HasPool w.backends w.maglev
          (if w.writesBack policy read.slots results then ⟨table, buildTable table.toList⟩
            else edited) := by
  intro table
  rw [checkPoolWhile]
  refine (HostAction.ensures_runPool PoolScript.list read).bind fun listed => ?_
  rw [PoolScript.run_list]
  refine HostAction.ensures_and ?_
  rintro rfl
  -- from here on the pass works on its copy of the slots, whatever the pool holds
  refine hmeanwhile.bind fun _ => ?_
  dsimp only
  split
  · next hnone =>
    have hkept : w.writesBack policy read.slots results = false := by
      rw [WatchedPool.writesBack, hnone, Bool.not_true, Bool.false_and]
    rw [WatchedPool.healthAfter, if_pos hnone, hkept]
    exact HostAction.ensures_pure fun h hpool => ⟨rfl, hpool⟩
  · next hsome =>
    have hwritten : w.writesBack policy read.slots results =
        (w.applied policy read.slots results).changed := by
      rw [WatchedPool.writesBack, Bool.eq_false_iff.2 hsome, Bool.not_false, Bool.true_and]
    rw [WatchedPool.healthAfter, if_neg hsome, hwritten]
    refine (hcheck _).bind fun answer => HostAction.ensures_and ?_
    rintro rfl
    refine (HostAction.ensures_forM (fun _ => HostAction.ensures_tell_pool _ edited) _).bind
      fun _ => ?_
    rw [← WatchedPool.applied]
    split
    · refine (HostAction.ensures_runPool (PoolScript.replace table) edited).bind fun written => ?_
      rw [PoolScript.run_replace]
      refine HostAction.ensures_and ?_
      rintro rfl
      refine (HostAction.ensures_tell_pool _ _).bind fun _ => ?_
      exact HostAction.ensures_pure fun h hpool => ⟨rfl, hpool⟩
    · exact HostAction.ensures_pure fun h hpool => ⟨rfl, hpool⟩

/-- A pass that writes nothing has no reason to: the results leave all slots as they are. -/
lemma pass_eq (policy : HealthPolicy) (w : WatchedPool) {read : SlotTable} {results : List (ℕ × Bool)}
    (hresults : (⟨read, w.health⟩ : Rotation).Allows (.pass results)) :
    (⟨read, w.health⟩ : Rotation).pass policy results =
      ⟨if w.writesBack policy read results then (w.applied policy read results).table else read,
        w.healthAfter policy read results⟩ := by
  change Rotation.mk (w.applied policy read results).table (w.applied policy read results).health = _
  rw [WatchedPool.healthAfter, WatchedPool.writesBack]
  cases htargets : (PoolHealth.targets w.health read).2 with
  | nil =>
    have hnone : results.map Prod.fst = [] := by
      rw [Rotation.Allows, Rotation.checks, htargets] at hresults
      exact List.subperm_nil.1 hresults
    rw [List.map_eq_nil_iff.1 hnone]
    rfl
  | cons target targets =>
    cases hchanged : (w.applied policy read results).changed with
    | true => rfl
    | false => exact congrArg (Rotation.mk · _) (PoolHealth.table_apply_of_not_changed hchanged)

/-- **A pass that nobody interferes with is a pass of the rotation**, for the slots in the kernel with
the histories of the watched pool. -/
theorem ensures_pass (policy : HealthPolicy) (w : WatchedPool) {read : PoolMaps}
    {results : List (ℕ × Bool)}
    (hresults : (⟨read.slots, w.health⟩ : Rotation).Allows (.pass results)) :
    Ensures (checkPoolWhile (return ()) (fun _ => return results) policy w)
      (Host.HasPool · w.backends w.maglev read)
      fun w' h => Rotation.mk (h.kernel.slots w.backends) w'.health =
        (⟨read.slots, w.health⟩ : Rotation).pass policy results := by
  intro h hpool
  obtain ⟨w', h', hrun, rfl, hafter⟩ := ensures_checkPoolWhile policy w
    (HostAction.ensures_pure fun h hpool => hpool)
    (fun targets => HostAction.ensures_pure fun h hpool => ⟨rfl, hpool⟩) h hpool
  have hslots : h'.kernel.slots w.backends = _ := congrArg PoolMaps.slots hafter.maps_eq
  refine ⟨_, h', hrun, ?_⟩
  dsimp only
  rw [hslots, pass_eq policy w hresults, apply_ite PoolMaps.slots]

/-! ### Operators that edit the pool meanwhile -/

/-- Operators update slots of a pool, one after the other.  An update that fails keeps nobody from
the next one. -/
def editAll (backends maglev : Kernel.MapId) (edits : List (ℕ × Option Backend)) :
    HostAction Unit :=
  edits.forM fun edit => do
    let _ ← attempt (runPool backends maglev (PoolScript.update edit.1 edit.2))

/-- The slots of a pool after a health pass.  Operators edit the pool after the pass has read it and
before it writes. -/
def slotsAfterPass (policy : HealthPolicy) (w : WatchedPool) (edits : List (ℕ × Option Backend))
    (results : List (ℕ × Bool)) (h : Host) : SlotTable :=
  let pass := checkPoolWhile (editAll w.backends w.maglev edits) (fun _ => return results) policy w
  (pass.run.run h).2.kernel.slots w.backends

lemma ensures_editAll (backends maglev : Kernel.MapId) (edits : List (ℕ × Option Backend))
    (maps : PoolMaps) :
    ∃ edited : PoolMaps, edited.slots = maps.slots.editedAll edits ∧
      Ensures (editAll backends maglev edits) (Host.HasPool · backends maglev maps)
        fun _ h => h.HasPool backends maglev edited := by
  induction edits generalizing maps with
  | nil => exact ⟨maps, rfl, HostAction.ensures_pure fun h hpool => hpool⟩
  | cons edit edits ih =>
    let update := PoolScript.update edit.1 edit.2
    have hupdate : Ensures (do let _ ← attempt (runPool backends maglev update))
        (Host.HasPool · backends maglev maps)
        fun _ h => h.HasPool backends maglev (update.run PoolScript.granted maps).2 :=
      (HostAction.ensures_runPool update maps).bind fun _ =>
        HostAction.ensures_pure fun h hpool => hpool.2
    obtain ⟨edited, hslots, hrest⟩ := ih (update.run PoolScript.granted maps).2
    refine ⟨edited, ?_, hupdate.bind fun _ => hrest⟩
    rw [hslots, PoolScript.slots_run_update]
    rfl

/-- The edits are there after the pass if it writes nothing, and none of them is otherwise. -/
theorem slotsAfterPass_eq (policy : HealthPolicy) {w : WatchedPool} {h : Host} {read : PoolMaps}
    (hpool : h.HasPool w.backends w.maglev read) (edits : List (ℕ × Option Backend))
    (results : List (ℕ × Bool)) :
    slotsAfterPass policy w edits results h =
      if w.writesBack policy read.slots results then (w.applied policy read.slots results).table
      else read.slots.editedAll edits := by
  obtain ⟨edited, hslots, hedits⟩ := ensures_editAll w.backends w.maglev edits read
  obtain ⟨w', h', hrun, -, hafter⟩ := ensures_checkPoolWhile policy w hedits
    (fun targets => HostAction.ensures_pure fun h hpool => ⟨rfl, hpool⟩) h hpool
  have hread : h'.kernel.slots w.backends = _ := congrArg PoolMaps.slots hafter.maps_eq
  rw [slotsAfterPass, hrun, hread]
  split
  · rfl
  · exact hslots

/-- **An edit made during a pass lasts only if the pass has nothing to write.**  Up to the active
flag, the slot holds the last edit after the pass exactly if no backend changes its state, or the
edit agrees with what the pass has read. -/
theorem edit_during_pass_lasts_iff (policy : HealthPolicy) {w : WatchedPool} {h : Host}
    {read : PoolMaps} (hpool : h.HasPool w.backends w.maglev read) (results : List (ℕ × Bool))
    (slot : Fin 16) (earlier later : List (ℕ × Option Backend)) {backend : Option Backend}
    (hfilled : ∀ b, backend = some b → b.address ≠ 0)
    (hlast : ∀ backend, ((slot : ℕ), backend) ∈ later → ∃ b, backend = some b ∧ b.address = 0) :
    let after := slotsAfterPass policy w (earlier ++ ((slot : ℕ), backend) :: later) results h
    (after.get slot).deactivate = (backend.getD Backend.empty).deactivate ↔
      w.writesBack policy read.slots results = true →
        (read.slots.get slot).deactivate = (backend.getD Backend.empty).deactivate := by
  intro after
  have hafter : after = _ := slotsAfterPass_eq policy hpool _ results
  rw [hafter]
  cases w.writesBack policy read.slots results with
  | true =>
    have hread : ((w.applied policy read.slots results).table.get slot).deactivate =
        (read.slots.get slot).deactivate := PoolHealth.deactivate_apply ..
    rw [if_pos rfl, hread]
    exact ⟨fun hkept _ => hkept, fun hkept => hkept rfl⟩
  | false =>
    have hedited : (read.slots.editedAll (earlier ++ ((slot : ℕ), backend) :: later)).get slot =
        backend.getD Backend.empty :=
      read.slots.getElem_editedAll slot.2 earlier hfilled hlast
    rw [if_neg Bool.false_ne_true, hedited]
    exact iff_of_true rfl fun hwritten => absurd hwritten Bool.false_ne_true

/-- A host with one pool of two active backends. -/
def twoBackends : Host :=
  let table := (SlotTable.empty.setIfInBounds 0
    { address := 0x0a000001, port := 5060, weight := 100, flags := 1 }).setIfInBounds 1
    { address := 0x0a000002, port := 5060, weight := 100, flags := 1 }
  { kernel := { maps := #[⟨⟨"sig_backends", 2, 4, 24, 16⟩, .slots table⟩,
      ⟨⟨"sig_maglev", 2, 4, 4, 4099⟩, .maglev (buildTable table.toList)⟩] } }

lemma twoBackends_hasPool : twoBackends.HasPool 0 1 (twoBackends.kernel.poolMaps 0 1) where
  pool :=
    { ne := by decide
      slots := ⟨_, rfl, Nat.le_refl 16⟩
      entries := ⟨_, rfl, Nat.le_refl 4099⟩ }
  maps_eq := rfl
  faults_eq := rfl

/-- A second failure in a row is needed to take a backend out, so the pass has nothing to write and a
new weight lasts. -/
theorem newWeight_lasts :
    let w : WatchedPool := ⟨.signaling, 0, 1, PoolHealth.fresh⟩
    let b : Backend := { address := 0x0a000002, port := 5060, weight := 200, flags := 1 }
    let edits := [(3, none), (1, some b), (0, none)]
    let after := slotsAfterPass ⟨500, 2, 2⟩ w edits [(0, false), (1, true)] twoBackends
    (after.get 1).deactivate = b.deactivate := by
  intro w b edits after
  have hfilled : ∀ b', some b = some b' → b'.address ≠ 0 := by simp [b]
  have hlasts := edit_during_pass_lasts_iff ⟨500, 2, 2⟩ (w := w) twoBackends_hasPool
    [(0, false), (1, true)] 1 [(3, none)] [(0, none)] hfilled (by simp)
  exact hlasts.2 fun hwritten => absurd hwritten (by decide +kernel)

/-- One failure takes the backend of slot 0 out.  The weight that an operator gave slot 1 meanwhile is
lost. -/
theorem newWeight_is_lost :
    let w : WatchedPool := ⟨.signaling, 0, 1, PoolHealth.fresh⟩
    let b : Backend := { address := 0x0a000002, port := 5060, weight := 200, flags := 1 }
    let results := [(0, false), (1, true)]
    let after := slotsAfterPass ⟨500, 2, 1⟩ w [(1, some b)] results twoBackends
    (PoolHealth.targets w.health (twoBackends.kernel.slots w.backends)).2.map Prod.fst =
        results.map Prod.fst ∧
      (after.get 1).deactivate ≠ b.deactivate := by
  intro w b results after
  have hafter : after = _ :=
    slotsAfterPass_eq ⟨500, 2, 1⟩ (w := w) twoBackends_hasPool [(1, some b)] results
  refine ⟨by decide +kernel, ?_⟩
  rw [hafter]
  decide +kernel

end VoiceSteering.Service
