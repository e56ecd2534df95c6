/-
# Health checks slot by slot

A pass over a pool brings the histories up to date, names the slots worth checking and applies the
results.  All of it works on each slot by itself: what becomes of a slot follows from its own
history, its own record and its own result.  So a slot is taken out of its pool here.

Whether a backend is healthy is kept twice, by its history and by the active flag of its record.
A slot whose history belongs to its endpoint stands in one of four ways, and this file says where a
result takes it from each of them.
-/
import Mathlib.Data.List.Nodup
import Mathlib.Tactic.Common
import VoiceSteering.Health

namespace VoiceSteering

/-! ### One result -/

namespace SlotHealth

/-- Failures change a healthy history when there are enough of them. -/
lemma record_failure (policy : HealthPolicy) (h : SlotHealth) :
    (h.record policy false).1 = { h with
      healthy := h.healthy && !decide (policy.unhealthyAfter ≤ Saturating.succ h.failures)
      failures := Saturating.succ h.failures
      successes := 0 } := by
  cases hhealthy : h.healthy
  · simp [record, hhealthy]
  · by_cases hlong : policy.unhealthyAfter ≤ Saturating.succ h.failures
    · simp [record, hhealthy, hlong]
    · simp [record, hhealthy, hlong]

/-- Successes change an unhealthy one. -/
lemma record_success (policy : HealthPolicy) (h : SlotHealth) :
    (h.record policy true).1 = { h with
      healthy := h.healthy || decide (policy.healthyAfter ≤ Saturating.succ h.successes)
      successes := Saturating.succ h.successes
      failures := 0 } := by
  cases hhealthy : h.healthy
  · by_cases hlong : policy.healthyAfter ≤ Saturating.succ h.successes
    · simp [record, hhealthy, hlong]
    · simp [record, hhealthy, hlong]
  · simp [record, hhealthy]

end SlotHealth

/-! ### A slot by itself -/

/-- A slot that is watched: the history of its checks and its record. -/
structure SlotState where
  health : SlotHealth
  backend : Backend

namespace SlotState

/-- The slot with its history brought up to date. -/
def followed (s : SlotState) : SlotState := ⟨PoolHealth.follow s.health s.backend, s.backend⟩

/-- The slot after a result. -/
def settled (policy : HealthPolicy) (ok : Bool) (s : SlotState) : SlotState :=
  let (health, backend, _) := PoolHealth.settle policy ok s.health s.backend
  ⟨health, backend⟩

/-- The history belongs to the endpoint of the record; `healthy` is what the history says of it,
and `active` what the record says. -/
structure Stands (healthy active : Bool) (s : SlotState) : Prop where
  current : s.health.target = s.backend.endpoint?
  healthy_eq : s.health.healthy = healthy
  active_eq : s.backend.isActive = active

/-! ### Bringing a history up to date -/

variable {s : SlotState} {healthy active : Bool} {policy : HealthPolicy}

lemma target_followed (s : SlotState) : s.followed.health.target = s.backend.endpoint? := by
  simp only [followed, PoolHealth.follow]
  split
  · next hempty => rw [hempty]; rfl
  · next target htarget =>
    rw [htarget]
    split
    · assumption
    · rfl

lemma followed_of_current (hcurrent : s.health.target = s.backend.endpoint?)
    (hfilled : s.backend.address ≠ 0) : s.followed = s := by
  rw [Backend.endpoint?_of_ne hfilled] at hcurrent
  simp only [followed, PoolHealth.follow, Backend.endpoint?_of_ne hfilled, if_pos hcurrent]

/-- A history that starts over is healthy. -/
lemma followed_of_not_current (hcurrent : s.health.target ≠ s.backend.endpoint?) :
    s.followed.health.healthy = true := by
  simp only [followed, PoolHealth.follow]
  split
  · rfl
  · next target htarget =>
    rw [htarget] at hcurrent
    rw [if_neg hcurrent]
    rfl

/-- A slot is worth checking if it is in rotation, or if its history took it out. -/
lemma stands_of_worthChecking {e : Endpoint}
    (hcheck : PoolHealth.worthChecking s.followed.health s.backend = some e) :
    s.followed.Stands true true ∨ s.followed.Stands false true ∨ s.followed.Stands false false := by
  have hcurrent : s.followed.health.target = s.followed.backend.endpoint? := s.target_followed
  cases hhealthy : s.followed.health.healthy with
  | false =>
    cases hactive : s.backend.isActive with
    | false => exact .inr (.inr ⟨hcurrent, hhealthy, hactive⟩)
    | true => exact .inr (.inl ⟨hcurrent, hhealthy, hactive⟩)
  | true =>
    cases hactive : s.backend.isActive with
    | false => simp [PoolHealth.worthChecking, hhealthy, hactive] at hcheck
    | true => exact .inl ⟨hcurrent, hhealthy, hactive⟩

lemma filled_of_worthChecking {e : Endpoint}
    (hcheck : PoolHealth.worthChecking s.health s.backend = some e) : s.backend.address ≠ 0 := by
  intro hempty
  rw [PoolHealth.worthChecking, Backend.endpoint?, if_pos hempty, ite_self] at hcheck
  exact absurd hcheck (by simp)

/-- A backend that the checks took out of rotation is checked further on. -/
lemma Stands.worthChecking (h : s.Stands false false) :
    PoolHealth.worthChecking s.health s.backend = s.backend.endpoint? := by
  simp [PoolHealth.worthChecking, h.healthy_eq]

/-! ### Where a result takes a slot -/

/-- A result changes nothing of a record but its active flag. -/
lemma deactivate_settled (policy : HealthPolicy) (ok : Bool) (s : SlotState) :
    (s.settled policy ok).backend.deactivate = s.backend.deactivate := by
  rw [settled, PoolHealth.settle]
  by_cases hcurrent : s.health.target = s.backend.endpoint?
  · rw [if_neg (not_not_intro hcurrent)]
    rcases s.health.record policy ok with ⟨h, _ | _ | _⟩
    · rfl
    · exact s.backend.deactivate_deactivate
    · exact s.backend.deactivate_activate
  · rw [if_pos hcurrent]

lemma address_settled (policy : HealthPolicy) (ok : Bool) (s : SlotState) :
    (s.settled policy ok).backend.address = s.backend.address := by
  have haddress := congrArg Backend.address (deactivate_settled policy ok s)
  exact haddress

/-- A failure tells nothing new of a backend whose history is unhealthy. -/
lemma Stands.settled_failure (h : s.Stands false active) :
    (s.settled policy false).Stands false active := by
  have hsettled : s.settled policy false =
      ⟨{ s.health with failures := Saturating.succ s.health.failures, successes := 0 },
        s.backend⟩ := by
    simp [settled, PoolHealth.settle, h.current, SlotHealth.record, h.healthy_eq]
  rw [hsettled]
  exact ⟨h.current, h.healthy_eq, h.active_eq⟩

/-- Nor does a success of one whose history is healthy. -/
lemma Stands.settled_success (h : s.Stands true active) :
    (s.settled policy true).Stands true active := by
  have hsettled : s.settled policy true =
      ⟨{ s.health with successes := Saturating.succ s.health.successes, failures := 0 },
        s.backend⟩ := by
    simp [settled, PoolHealth.settle, h.current, SlotHealth.record, h.healthy_eq]
  rw [hsettled]
  exact ⟨h.current, h.healthy_eq, h.active_eq⟩

/-- The failure that completes the streak takes a backend out of rotation; until then failures are
counted. -/
lemma Stands.settled_failure_of_healthy (h : s.Stands true active) (policy : HealthPolicy) :
    if policy.unhealthyAfter ≤ Saturating.succ s.health.failures then
      (s.settled policy false).Stands false false
    else (s.settled policy false).Stands true active ∧
      (s.settled policy false).health.failures = Saturating.succ s.health.failures := by
  split
  · next hlong =>
    have hsettled : s.settled policy false =
        ⟨{ s.health with
            failures := Saturating.succ s.health.failures, successes := 0, healthy := false },
          s.backend.deactivate⟩ := by
      simp [settled, PoolHealth.settle, h.current, SlotHealth.record, h.healthy_eq, hlong]
    rw [hsettled]
    exact ⟨h.current, rfl, s.backend.isActive_deactivate⟩
  · next hshort =>
    have hsettled : s.settled policy false =
        ⟨{ s.health with failures := Saturating.succ s.health.failures, successes := 0 },
          s.backend⟩ := by
      simp [settled, PoolHealth.settle, h.current, SlotHealth.record, h.healthy_eq, hshort]
    rw [hsettled]
    exact ⟨⟨h.current, h.healthy_eq, h.active_eq⟩, rfl⟩

/-- The success that completes the streak brings a backend back; until then successes are
counted. -/
lemma Stands.settled_success_of_unhealthy (h : s.Stands false active) (policy : HealthPolicy) :
    if policy.healthyAfter ≤ Saturating.succ s.health.successes then
      (s.settled policy true).Stands true true
    else (s.settled policy true).Stands false active ∧
      (s.settled policy true).health.successes = Saturating.succ s.health.successes := by
  split
  · next hlong =>
    have hsettled : s.settled policy true =
        ⟨{ s.health with
            successes := Saturating.succ s.health.successes, failures := 0, healthy := true },
          s.backend.activate⟩ := by
      simp [settled, PoolHealth.settle, h.current, SlotHealth.record, h.healthy_eq, hlong]
    rw [hsettled]
    exact ⟨h.current, rfl, s.backend.isActive_activate⟩
  · next hshort =>
    have hsettled : s.settled policy true =
        ⟨{ s.health with successes := Saturating.succ s.health.successes, failures := 0 },
          s.backend⟩ := by
      simp [settled, PoolHealth.settle, h.current, SlotHealth.record, h.healthy_eq, hshort]
    rw [hsettled]
    exact ⟨⟨h.current, h.healthy_eq, h.active_eq⟩, rfl⟩

/-- A result leaves a slot as it stands, or makes record and history what it says. -/
lemma Stands.settled (h : s.Stands healthy active) (policy : HealthPolicy) (ok : Bool) :
    (s.settled policy ok).Stands healthy active ∨ (s.settled policy ok).Stands ok ok := by
  cases healthy <;> cases ok
  · exact .inl h.settled_failure
  · have hsuccess := h.settled_success_of_unhealthy policy
    split at hsuccess
    · exact .inr hsuccess
    · exact .inl hsuccess.1
  · have hfailure := h.settled_failure_of_healthy policy
    split at hfailure
    · exact .inr hfailure
    · exact .inl hfailure.1
  · exact .inl h.settled_success

end SlotState

namespace PoolHealth

open SlotState (Stands)

/-! ### The slots worth checking -/

lemma getElem_targets (health : PoolHealth) (table : SlotTable) (i : Fin 16) :
    (targets health table).1.get i = follow (health.get i) (table.get i) :=
  Vector.getElem_zipWith ..

lemma mem_targets_iff {health : PoolHealth} {table : SlotTable} {slot : ℕ} {e : Endpoint} :
    (slot, e) ∈ (targets health table).2 ↔
      ∃ h : slot < 16, worthChecking (follow health[slot] table[slot]) table[slot] = some e := by
  simp only [targets, List.mem_filterMap, List.mem_mapIdx, Vector.length_toList,
    Vector.getElem_toList, Vector.getElem_zipWith]
  constructor
  · rintro ⟨_, ⟨i, hi, rfl⟩, hp⟩
    obtain ⟨e', he', heq⟩ := Option.map_eq_some_iff.1 hp
    obtain ⟨rfl, rfl⟩ := Prod.mk.inj heq
    exact ⟨hi, he'⟩
  · rintro ⟨hi, he⟩
    exact ⟨_, ⟨slot, hi, rfl⟩, by rw [he]; rfl⟩

/-- No slot is named twice. -/
lemma nodup_targets (health : PoolHealth) (table : SlotTable) :
    ((targets health table).2.map Prod.fst).Nodup := by
  have hpositions : ∀ l : List (Option Endpoint), l.zipIdx.Pairwise fun a b => a.2 ≠ b.2 := by
    intro l
    rw [← List.pairwise_map (f := Prod.snd) (R := (· ≠ ·)), List.zipIdx_map_snd]
    exact List.nodup_range'
  rw [targets, List.mapIdx_eq_zipIdx_map, List.filterMap_map, List.Nodup, List.pairwise_map,
    List.pairwise_filterMap]
  refine (hpositions _).imp fun {a b} hne x hx y hy => ?_
  obtain ⟨e, -, rfl⟩ := Option.map_eq_some_iff.1 hx
  obtain ⟨e', -, rfl⟩ := Option.map_eq_some_iff.1 hy
  exact hne

/-! ### Results -/

/-- A slot while results are applied. -/
def Applied.slotState (a : Applied) (i : Fin 16) : SlotState :=
  ⟨a.health.get i, a.table.get i⟩

variable {policy : HealthPolicy} {i : Fin 16} {ok : Bool} {results : List (ℕ × Bool)}

lemma Applied.slotState_step_self (a : Applied) :
    (a.step policy i ok).slotState i = (a.slotState i).settled policy ok := by
  rw [step, dif_pos i.isLt]
  exact congrArg₂ SlotState.mk (Vector.getElem_set_self _) (Vector.getElem_set_self _)

lemma Applied.slotState_step_of_ne (a : Applied) {slot : ℕ} (hne : slot ≠ i) :
    (a.step policy slot ok).slotState i = a.slotState i := by
  rw [step]
  split
  · next hslot =>
    exact congrArg₂ SlotState.mk (Vector.getElem_set_ne hslot i.2 hne)
      (Vector.getElem_set_ne hslot i.2 hne)
  · rfl

lemma slotState_foldl_of_notMem (a : Applied) (hi : (i : ℕ) ∉ results.map Prod.fst) :
    (results.foldl (fun a result => a.step policy result.1 result.2) a).slotState i =
      a.slotState i := by
  induction results generalizing a with
  | nil => rfl
  | cons result results ih =>
    rw [List.map_cons, List.mem_cons, not_or] at hi
    rw [List.foldl_cons, ih _ hi.2, Applied.slotState_step_of_ne a (Ne.symm hi.1)]

/-- A slot without a result stays as it is. -/
lemma slotState_apply_of_notMem {health : PoolHealth} {table : SlotTable}
    (hi : (i : ℕ) ∉ results.map Prod.fst) :
    (apply policy health table results).slotState i = ⟨health.get i, table.get i⟩ :=
  slotState_foldl_of_notMem ⟨health, table, []⟩ hi

/-- A slot with one result is settled by it, wherever it stands among the results. -/
lemma slotState_apply_of_mem {health : PoolHealth} {table : SlotTable}
    (hnodup : (results.map Prod.fst).Nodup) (hmem : ((i : ℕ), ok) ∈ results) :
    (apply policy health table results).slotState i =
      SlotState.settled policy ok ⟨health.get i, table.get i⟩ := by
  obtain ⟨before, after, rfl⟩ := List.append_of_mem hmem
  rw [List.map_append, List.map_cons, List.nodup_append, List.nodup_cons] at hnodup
  obtain ⟨-, ⟨hafter, -⟩, hbefore⟩ := hnodup
  have hbefore : (i : ℕ) ∉ before.map Prod.fst := fun h => hbefore i h i (List.mem_cons_self ..) rfl
  rw [apply, List.foldl_append, List.foldl_cons, slotState_foldl_of_notMem _ hafter,
    Applied.slotState_step_self, slotState_foldl_of_notMem _ hbefore]
  rfl

/-- Results change nothing of the records but active flags. -/
lemma deactivate_apply (policy : HealthPolicy) (health : PoolHealth) (table : SlotTable)
    (results : List (ℕ × Bool)) (i : Fin 16) :
    ((apply policy health table results).table.get i).deactivate = (table.get i).deactivate := by
  suffices hfold : ∀ a : Applied, ((results.foldl (fun a result =>
      a.step policy result.1 result.2) a).slotState i).backend.deactivate =
        (a.slotState i).backend.deactivate from hfold ⟨health, table, []⟩
  intro a
  induction results generalizing a with
  | nil => rfl
  | cons result results ih =>
    rw [List.foldl_cons, ih]
    rcases eq_or_ne result.1 i with heq | hne
    · rw [heq, Applied.slotState_step_self, SlotState.deactivate_settled]
    · rw [Applied.slotState_step_of_ne _ hne]

/-- A result that brings no new state leaves the record as it is. -/
lemma backend_settle_of_no_flip {h : SlotHealth} {b : Backend}
    (hflip : (settle policy ok h b).2.2 = none) : (settle policy ok h b).2.1 = b := by
  revert hflip
  rw [settle]
  split
  · exact fun _ => rfl
  · split
    · exact nofun
    · exact nofun
    · exact fun _ => rfl

/-- Flips are never taken back, and a step without one leaves the table. -/
lemma Applied.step_of_no_flips {a : Applied} {slot : ℕ}
    (hflips : (a.step policy slot ok).flips = []) :
    a.flips = [] ∧ (a.step policy slot ok).table = a.table := by
  revert hflips
  rw [step]
  split
  · next hslot =>
    cases hflip : (settle policy ok a.health[slot] a.table[slot]).2.2 with
    | some healthy => simp [hflip]
    | none =>
      intro hflips
      simp only [hflip] at hflips
      refine ⟨hflips, ?_⟩
      simp only [backend_settle_of_no_flip hflip, Vector.set_getElem_self]
  · exact fun hflips => ⟨hflips, rfl⟩

lemma foldl_of_no_flips {a : Applied}
    (hflips : (results.foldl (fun a result => a.step policy result.1 result.2) a).flips = []) :
    a.flips = [] ∧
      (results.foldl (fun a result => a.step policy result.1 result.2) a).table = a.table := by
  induction results generalizing a with
  | nil => exact ⟨hflips, rfl⟩
  | cons result results ih =>
    obtain ⟨hflips', htable⟩ := ih hflips
    obtain ⟨hflips'', htable'⟩ := Applied.step_of_no_flips hflips'
    exact ⟨hflips'', htable.trans htable'⟩

/-- If no slot changes state, the table is the same as before. -/
lemma table_apply_of_not_changed {health : PoolHealth} {table : SlotTable}
    (hsame : (apply policy health table results).changed = false) :
    (apply policy health table results).table = table := by
  have hflips : (apply policy health table results).flips = [] := by
    simpa [Applied.changed] using hsame
  exact (foldl_of_no_flips hflips).2

end PoolHealth

end VoiceSteering
