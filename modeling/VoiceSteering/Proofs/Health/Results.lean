/-
# Results in any order

The checks of a pass run side by side, and a result comes when its check ends.  No slot has two of them,
so each result finds the history and the record that its slot had before the pass, and what it makes of
them is not touched by the results of other slots.  Hence nothing of what the results do depends on their
order but the order of the flips.
-/
import Mathlib.Data.List.Perm.Subperm
import VoiceSteering.Host.Network
import VoiceSteering.Proofs.Health.Slot

namespace VoiceSteering

/-- The record of a slot that changes state, or of one that does not. -/
def Backend.flipped (b : Backend) : Option Bool → Backend
  | some true => b.activate
  | some false => b.deactivate
  | none => b

namespace PoolHealth

/-- What becomes of a slot with its result, or without one: its history, its record and its new
state, if it has another one. -/
def outcome (policy : HealthPolicy) (h : SlotHealth) (b : Backend) :
    Option Bool → SlotHealth × Backend × Option Bool
  | some ok => settle policy ok h b
  | none => (h, b, none)

/-- The flip that a result brings about, if its slot changes state. -/
def flip? (policy : HealthPolicy) (health : PoolHealth) (table : SlotTable)
    (result : ℕ × Bool) : Option HealthFlip :=
  if hslot : result.1 < 16 then
    (settle policy result.2 health[result.1] table[result.1]).2.2.map fun healthy =>
      ⟨result.1, health[result.1].target, healthy⟩
  else none

/-- The new state of a slot, if it has changed state. -/
def Applied.flipOf (a : Applied) (slot : ℕ) : Option Bool :=
  (a.flips.find? fun flip => flip.slot = slot).map (·.healthy)

variable {policy : HealthPolicy} {health : PoolHealth} {table : SlotTable} {ok : Bool}
  {results : List (ℕ × Bool)} {slot : ℕ}

/-! ### One result -/

lemma target_settle (policy : HealthPolicy) (ok : Bool) (h : SlotHealth) (b : Backend) :
    (settle policy ok h b).1.target = h.target := by
  have hrecord : (h.record policy ok).1.target = h.target := by
    cases ok with
    | false => rw [SlotHealth.record_failure]
    | true => rw [SlotHealth.record_success]
  rw [settle]
  split
  · rfl
  · rw [← hrecord]
    split
    · next heq => rw [heq]
    · next heq => rw [heq]
    · next heq => rw [heq]

lemma settle_of_stale {h : SlotHealth} {b : Backend} (hstale : h.target ≠ b.endpoint?) :
    settle policy ok h b = (h, b, none) := if_pos hstale

/-- Nothing of a record changes but the active flag, and that only if the state does. -/
lemma backend_settle (policy : HealthPolicy) (ok : Bool) (h : SlotHealth) (b : Backend) :
    (settle policy ok h b).2.1 = b.flipped (settle policy ok h b).2.2 := by
  rw [settle]
  split
  · rfl
  · split
    · rfl
    · rfl
    · rfl

lemma backend_outcome (policy : HealthPolicy) (h : SlotHealth) (b : Backend)
    (result : Option Bool) :
    (outcome policy h b result).2.1 = b.flipped (outcome policy h b result).2.2 := by
  cases result with
  | none => rfl
  | some ok => exact backend_settle policy ok h b

lemma outcome_of_stale {h : SlotHealth} {b : Backend} (hstale : h.target ≠ b.endpoint?)
    (result : Option Bool) : outcome policy h b result = (h, b, none) := by
  cases result with
  | none => rfl
  | some ok => exact settle_of_stale hstale

lemma slot_of_flip? {result : ℕ × Bool} {flip : HealthFlip}
    (hflip : flip? policy health table result = some flip) : flip.slot = result.1 := by
  rw [flip?] at hflip
  split at hflip
  · obtain ⟨healthy, -, rfl⟩ := Option.map_eq_some_iff.1 hflip
    rfl
  · exact absurd hflip (by simp)

lemma healthy_flip? (policy : HealthPolicy) (health : PoolHealth) (table : SlotTable) (ok : Bool)
    (hslot : slot < 16) :
    (flip? policy health table (slot, ok)).map (·.healthy) =
      (settle policy ok health[slot] table[slot]).2.2 := by
  rw [flip?, dif_pos hslot, Option.map_map]
  exact Option.map_id'

/-! ### All results -/

lemma Applied.flips_step (a : Applied) (slot : ℕ) (ok : Bool) :
    (a.step policy slot ok).flips =
      a.flips ++ (flip? policy a.health a.table (slot, ok)).toList := by
  rw [step, flip?]
  split
  · next hslot =>
    have htarget := target_settle policy ok a.health[slot] a.table[slot]
    cases hflip : (settle policy ok a.health[slot] a.table[slot]).2.2 with
    | none => simp [hflip]
    | some healthy => simp [hflip, htarget]
  · simp

/-- A result does not reach the flips of other slots. -/
lemma Applied.flip?_step_of_ne (a : Applied) {result : ℕ × Bool} (hne : slot ≠ result.1) :
    flip? policy (a.step policy slot ok).health (a.step policy slot ok).table result =
      flip? policy a.health a.table result := by
  rw [flip?, flip?]
  split
  · next hslot =>
    have hsame : (a.step policy slot ok).slotState ⟨result.1, hslot⟩ =
        a.slotState ⟨result.1, hslot⟩ := a.slotState_step_of_ne hne
    have hhealth : (a.step policy slot ok).health[result.1] = a.health[result.1] :=
      congrArg SlotState.health hsame
    have htable : (a.step policy slot ok).table[result.1] = a.table[result.1] :=
      congrArg SlotState.backend hsame
    rw [hhealth, htable]
  · rfl

lemma flips_foldl {a : Applied} (hnodup : (results.map Prod.fst).Nodup) :
    (results.foldl (fun a result => a.step policy result.1 result.2) a).flips =
      a.flips ++ results.filterMap (flip? policy a.health a.table) := by
  induction results generalizing a with
  | nil => simp
  | cons result results ih =>
    rw [List.map_cons, List.nodup_cons] at hnodup
    have hothers : results.filterMap (flip? policy (a.step policy result.1 result.2).health
        (a.step policy result.1 result.2).table) =
          results.filterMap (flip? policy a.health a.table) := by
      refine List.filterMap_congr fun other hother => a.flip?_step_of_ne ?_
      rintro heq
      exact hnodup.1 (heq ▸ List.mem_map_of_mem hother)
    rw [List.foldl_cons, ih hnodup.2, hothers, Applied.flips_step, List.append_assoc]
    cases hflip : flip? policy a.health a.table result with
    | none => simp [hflip]
    | some flip => simp [hflip]

/-- The flips are those of the results, each one taken by itself. -/
lemma flips_apply (hnodup : (results.map Prod.fst).Nodup) :
    (apply policy health table results).flips =
      results.filterMap (flip? policy health table) :=
  flips_foldl (a := ⟨health, table, []⟩) hnodup

/-- Results of slots that no pool has change nothing. -/
lemma apply_filter (policy : HealthPolicy) (health : PoolHealth) (table : SlotTable)
    (results : List (ℕ × Bool)) :
    apply policy health table (results.filter fun result => result.1 < 16) =
      apply policy health table results := by
  rw [apply, apply, List.foldl_filter]
  congr 1
  funext a result
  by_cases hslot : result.1 < 16
  · rw [if_pos (decide_eq_true hslot)]
  · rw [if_neg (by simpa using hslot), Applied.step, dif_neg hslot]

/-! ### The result of a slot -/

lemma lookup_eq_some_iff_mem (hnodup : (results.map Prod.fst).Nodup) :
    results.lookup slot = some ok ↔ (slot, ok) ∈ results := by
  rw [List.lookup_eq_some_iff]
  constructor
  · rintro ⟨before, after, rfl, -⟩
    simp
  · intro hmem
    obtain ⟨before, after, rfl⟩ := List.append_of_mem hmem
    rw [List.map_append, List.map_cons, List.nodup_append] at hnodup
    refine ⟨before, after, rfl, fun result hresult => ?_⟩
    have hne : result.1 ≠ slot :=
      hnodup.2.2 _ (List.mem_map_of_mem hresult) _ (List.mem_cons_self ..)
    simpa using hne.symm

lemma lookup_eq_none_iff_notMem : results.lookup slot = none ↔ slot ∉ results.map Prod.fst := by
  rw [List.lookup_eq_none_iff, List.mem_map]
  constructor
  · rintro hnone ⟨result, hresult, rfl⟩
    simpa using hnone result hresult
  · intro hslot result hresult
    exact bne_iff_ne.2 fun heq => hslot ⟨result, hresult, heq.symm⟩

lemma lookup_of_perm {others : List (ℕ × Bool)} (hperm : others.Perm results)
    (hnodup : (results.map Prod.fst).Nodup) : others.lookup slot = results.lookup slot := by
  have hnodup' : (others.map Prod.fst).Nodup := (hperm.map Prod.fst).nodup_iff.2 hnodup
  ext ok
  rw [lookup_eq_some_iff_mem hnodup', lookup_eq_some_iff_mem hnodup, hperm.mem_iff]

/-- Slots without a result have no flip. -/
lemma find?_flips_of_notMem (hslot : slot ∉ results.map Prod.fst) :
    (results.filterMap (flip? policy health table)).find? (fun flip => flip.slot = slot) = none := by
  rw [List.find?_eq_none]
  intro flip hflip
  obtain ⟨result, hresult, heq⟩ := List.mem_filterMap.1 hflip
  have hne : result.1 ≠ slot := fun heq => hslot (heq ▸ List.mem_map_of_mem hresult)
  simpa [slot_of_flip? heq] using hne

lemma flipOf_apply (hnodup : (results.map Prod.fst).Nodup) (hslot : slot < 16) :
    (apply policy health table results).flipOf slot =
      (outcome policy health[slot] table[slot] (results.lookup slot)).2.2 := by
  rw [Applied.flipOf, flips_apply hnodup]
  cases hresult : results.lookup slot with
  | none =>
    rw [find?_flips_of_notMem (lookup_eq_none_iff_notMem.1 hresult)]
    rfl
  | some ok =>
    obtain ⟨before, after, rfl⟩ :=
      List.append_of_mem ((lookup_eq_some_iff_mem hnodup).1 hresult)
    rw [List.map_append, List.map_cons, List.nodup_append, List.nodup_cons] at hnodup
    obtain ⟨-, ⟨hafter, -⟩, hbefore⟩ := hnodup
    have hbefore' : slot ∉ before.map Prod.fst :=
      fun h => hbefore slot h slot (List.mem_cons_self ..) rfl
    have hflip := healthy_flip? policy health table ok hslot
    rw [List.filterMap_append, List.find?_append, find?_flips_of_notMem hbefore', Option.none_or,
      outcome, ← hflip]
    cases hhead : flip? policy health table (slot, ok) with
    | none =>
      rw [List.filterMap_cons_none hhead, find?_flips_of_notMem hafter]
    | some flip =>
      rw [List.filterMap_cons_some hhead, List.find?_cons_of_pos]
      simpa using slot_of_flip? hhead

/-- What becomes of a slot follows from its own history, its own record and its own result. -/
lemma apply_eq_outcome (policy : HealthPolicy) (health : PoolHealth) (table : SlotTable)
    (hnodup : (results.map Prod.fst).Nodup) (hslot : slot < 16) :
    ((apply policy health table results).health[slot], (apply policy health table results).table[slot],
      (apply policy health table results).flipOf slot) =
        outcome policy health[slot] table[slot] (results.lookup slot) := by
  rw [flipOf_apply hnodup hslot]
  cases hresult : results.lookup slot with
  | none =>
    have hsame : (apply policy health table results).slotState ⟨slot, hslot⟩ =
        ⟨health[slot], table[slot]⟩ :=
      slotState_apply_of_notMem (lookup_eq_none_iff_notMem.1 hresult)
    exact Prod.ext (congrArg SlotState.health hsame)
      (Prod.ext (congrArg SlotState.backend hsame) rfl)
  | some ok =>
    have hsettled : (apply policy health table results).slotState ⟨slot, hslot⟩ =
        SlotState.settled policy ok ⟨health[slot], table[slot]⟩ :=
      slotState_apply_of_mem hnodup ((lookup_eq_some_iff_mem hnodup).1 hresult)
    exact Prod.ext (congrArg SlotState.health hsettled)
      (Prod.ext (congrArg SlotState.backend hsettled) rfl)

/-! ### Any order -/

lemma changed_eq_false_iff (a : Applied) : a.changed = false ↔ ∀ slot, a.flipOf slot = none := by
  simp only [Applied.changed, Bool.not_eq_false', List.isEmpty_iff, Applied.flipOf,
    Option.map_eq_none_iff, List.find?_eq_none]
  constructor
  · intro hflips slot flip hflip
    simp [hflips] at hflip
  · intro hnone
    refine List.eq_nil_iff_forall_not_mem.2 fun flip hflip => ?_
    exact hnone flip.slot flip hflip (by simp)

lemma health_apply_of_perm {others : List (ℕ × Bool)} (hperm : others.Perm results)
    (hnodup : (results.map Prod.fst).Nodup) :
    (apply policy health table others).health = (apply policy health table results).health ∧
      (apply policy health table others).table = (apply policy health table results).table := by
  have hnodup' : (others.map Prod.fst).Nodup := (hperm.map Prod.fst).nodup_iff.2 hnodup
  have hslots (slot : ℕ) (hslot : slot < 16) := by
    have hothers := apply_eq_outcome policy health table hnodup' hslot
    rw [lookup_of_perm hperm hnodup, ← apply_eq_outcome policy health table hnodup hslot] at hothers
    exact hothers
  exact ⟨Vector.ext fun slot hslot => congrArg (·.1) (hslots slot hslot),
    Vector.ext fun slot hslot => congrArg (·.2.1) (hslots slot hslot)⟩

/-- The results of a pass, in whatever order its checks end and whether or not all of them do, are of
different slots. -/
lemma nodup_of_checkAll (network : Network) {results : List (ℕ × Bool)}
    (hresults : results.Subperm (network.checkAll (targets health table).2)) :
    (results.map Prod.fst).Nodup := by
  have hslots : (network.checkAll (targets health table).2).map Prod.fst =
      (targets health table).2.map Prod.fst := by
    rw [Network.checkAll, List.map_map]
    rfl
  obtain ⟨ended, hperm, hsub⟩ := hresults
  have hended : (ended.map Prod.fst).Nodup := by
    refine (hsub.map Prod.fst).nodup ?_
    rw [hslots]
    exact nodup_targets health table
  exact (hperm.map Prod.fst).nodup_iff.1 hended

/-- **Results are settled slot by slot, in any order.**  If no slot has two results, what becomes of a
slot follows from its own history, its own record and its own result, and whatever the order of the
results, the histories, the records and whether anything changed are the same.  Of a record nothing
changes but the active flag, and that only if the slot changes state; a result of a slot that no pool has
changes nothing, nor does one for another endpoint than the record has; and without any change of state
the records are those from before.  The checks of a pass have such results. -/
theorem results_settle_slot_by_slot (policy : HealthPolicy) (health : PoolHealth)
    (table : SlotTable) {results : List (ℕ × Bool)} (hnodup : (results.map Prod.fst).Nodup) :
    let after := apply policy health table results
    (∀ (slot : ℕ) (hslot : slot < 16),
      (after.health[slot], after.table[slot], after.flipOf slot) =
        outcome policy health[slot] table[slot] (results.lookup slot)) ∧
    (∀ (slot : ℕ) (hslot : slot < 16),
      after.table[slot] = table[slot].flipped (after.flipOf slot)) ∧
    (∀ others : List (ℕ × Bool), others.Perm results →
      (apply policy health table others).health = after.health ∧
      (apply policy health table others).table = after.table ∧
      (apply policy health table others).changed = after.changed ∧
      (apply policy health table others).flips.Perm after.flips) ∧
    apply policy health table (results.filter fun result => result.1 < 16) = after ∧
    (∀ (slot : ℕ) (hslot : slot < 16), health[slot].target ≠ table[slot].endpoint? →
      after.health[slot] = health[slot] ∧ after.table[slot] = table[slot]) ∧
    (after.changed = false ↔ ∀ slot, after.flipOf slot = none) ∧
    (after.changed = false → after.table = table) ∧
    ∀ (network : Network) (ended : List (ℕ × Bool)),
      ended.Subperm (network.checkAll (targets health table).2) →
        (ended.map Prod.fst).Nodup := by
  intro after
  have houtcome (slot : ℕ) (hslot : slot < 16) :
      (after.health[slot], after.table[slot], after.flipOf slot) =
        outcome policy health[slot] table[slot] (results.lookup slot) :=
    apply_eq_outcome policy health table hnodup hslot
  refine ⟨houtcome, ?_, ?_, apply_filter policy health table results, ?_, changed_eq_false_iff after,
    table_apply_of_not_changed, fun network ended hended => nodup_of_checkAll network hended⟩
  · intro slot hslot
    have hbackend := backend_outcome policy health[slot] table[slot] (results.lookup slot)
    rwa [← houtcome slot hslot] at hbackend
  · intro others hperm
    have hnodup' : (others.map Prod.fst).Nodup := (hperm.map Prod.fst).nodup_iff.2 hnodup
    obtain ⟨hhealth, htable⟩ := health_apply_of_perm hperm hnodup
    have hflips : (apply policy health table others).flips.Perm after.flips := by
      rw [flips_apply hnodup', flips_apply hnodup]
      exact hperm.filterMap _
    refine ⟨hhealth, htable, ?_, hflips⟩
    rw [Applied.changed, Applied.changed, hflips.isEmpty_eq]
  · intro slot hslot hstale
    have hslot' := houtcome slot hslot
    rw [outcome_of_stale hstale] at hslot'
    exact ⟨congrArg (·.1) hslot', congrArg (·.2.1) hslot'⟩

/-- Of three results one is of a slot that no pool has.  One of the other two takes its backend out of
rotation, and the same happens in the reverse order. -/
theorem reversedResults_settle_alike :
    let policy : HealthPolicy := ⟨500, 2, 1⟩
    let table : SlotTable := (SlotTable.empty.setIfInBounds 1
      { address := 0x0a000001, port := 5060, flags := 1 }).setIfInBounds 3
      { address := 0x0a000003, port := 5060, flags := 1 }
    let health := (targets PoolHealth.fresh table).1
    let results := [(3, false), (20, false), (1, true)]
    (results.map Prod.fst).Nodup ∧
      (apply policy health table results).flips = [⟨3, some ⟨0x0a000003, 5060⟩, false⟩] ∧
      (apply policy health table results.reverse).table =
        (apply policy health table results).table := by
  intro policy table health results
  have hnodup : (results.map Prod.fst).Nodup := by decide
  have hflips : (apply policy health table results).flips =
      [⟨3, some ⟨0x0a000003, 5060⟩, false⟩] := by decide +kernel
  obtain ⟨-, -, horder, -⟩ := results_settle_slot_by_slot policy health table hnodup
  exact ⟨hnodup, hflips, (horder results.reverse results.reverse_perm).2.1⟩

end PoolHealth

end VoiceSteering
