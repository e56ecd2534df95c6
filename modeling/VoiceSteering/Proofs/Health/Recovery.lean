/-
# No backend stays out of rotation

A backend that is out of rotation is checked by every pass, and each success that a pass reports
adds to its streak.  So it comes back after as many passes as the policy asks for, if not an edit
brings the slot back before.
-/
import VoiceSteering.Proofs.Health.Rotation

namespace VoiceSteering

/-- How many successes in a row bring a backend back. -/
def HealthPolicy.recovery (policy : HealthPolicy) : ℕ := max policy.healthyAfter.toNat 1

/-- The backend is out of rotation after `streak` successes, and they are not enough. -/
structure SlotState.Recovering (policy : HealthPolicy) (streak : ℕ) (s : SlotState) : Prop where
  filled : s.backend.address ≠ 0
  stands : s.Stands false false
  le_successes : streak ≤ s.health.successes.toNat
  lt_recovery : streak < policy.recovery

namespace SlotState

variable {policy : HealthPolicy} {s : SlotState} {streak : ℕ}

/-- One more success brings the backend back or lengthens the streak. -/
lemma Recovering.success (h : s.Recovering policy streak) :
    (s.followed.settled policy true).backend.isActive = true ∨
      (s.followed.settled policy true).Recovering policy (streak + 1) := by
  rw [followed_of_current h.stands.current h.filled]
  have hsuccess := h.stands.settled_success_of_unhealthy policy
  split at hsuccess
  · exact .inl hsuccess.active_eq
  · next hshort =>
    obtain ⟨hstands, hsuccesses⟩ := hsuccess
    obtain ⟨hsucc, hlt⟩ := Saturating.toNat_succ_of_not_le hshort
    have hstreak := h.le_successes
    refine .inr ⟨?_, hstands, ?_, ?_⟩
    · rw [address_settled]
      exact h.filled
    · rw [hsuccesses, hsucc]
      exact Nat.succ_le_succ hstreak
    · exact Nat.lt_of_le_of_lt (Nat.succ_le_succ hstreak)
        (Nat.lt_of_lt_of_le hlt (Nat.le_max_left _ _))

end SlotState

namespace Rotation

variable {policy : HealthPolicy} {r : Rotation} {i : Fin 16} {steps : List Step} {streak : ℕ}

/-- A backend that is recovering, or whose slot has been emptied meanwhile, is active at some point
of a run whose passes all report its success. -/
lemma exists_active_of_successes (hstreak : streak < policy.recovery)
    (hslot : (r.slotState i).Recovering policy streak ∨ (r.slotState i).backend.address = 0)
    (hallowed : AllowsAll policy r steps)
    (hsuccess : ∀ results, .pass results ∈ steps → ((i : ℕ), true) ∈ results)
    (hlong : policy.recovery ≤ streak + steps.countP Step.isPass) :
    ∃ before after, steps = before ++ after ∧
      streak + before.countP Step.isPass ≤ policy.recovery ∧
      ((r.run policy before).slotState i).backend.isActive = true := by
  induction steps generalizing r streak with
  | nil => exact absurd hlong (Nat.not_le.2 hstreak)
  | cons step steps ih =>
    have hsuccess' : ∀ results, .pass results ∈ steps → ((i : ℕ), true) ∈ results :=
      fun results hmem => hsuccess results (List.mem_cons_of_mem _ hmem)
    cases step with
    | edit slot backend =>
      -- an edit takes no pass, so the rest of the run has to be as long as the whole
      have hrest (hslot' : ((r.edit slot backend).slotState i).Recovering policy streak ∨
          ((r.edit slot backend).slotState i).backend.address = 0) :
          ∃ before after, .edit slot backend :: steps = before ++ after ∧
            streak + before.countP Step.isPass ≤ policy.recovery ∧
            ((r.run policy before).slotState i).backend.isActive = true := by
        obtain ⟨before, after, rfl, hcount, hactive⟩ :=
          ih hstreak hslot' hallowed.2 hsuccess' hlong
        exact ⟨.edit slot backend :: before, after, rfl, hcount, hactive⟩
      rcases eq_or_ne slot i with rfl | hne
      · have hedited := slotState_edit_self hallowed.1
        cases backend with
        | none => exact hrest (.inr (congrArg (·.backend.address) hedited))
        | some b =>
          have hactive := (Backend.isUsable_iff.1 (hallowed.1 b rfl)).1
          refine ⟨[.edit i (some b)], steps, rfl, Nat.le_of_lt hstreak, ?_⟩
          exact (congrArg (·.backend.isActive) hedited).trans hactive
      · rw [slotState_edit_of_ne r backend hne] at hrest
        exact hrest hslot
    | pass results =>
      have hmem := hsuccess results (List.mem_cons_self ..)
      obtain ⟨e, hcheck⟩ := exists_worthChecking hallowed.1 hmem
      have hpass := slotState_pass_of_mem policy hallowed.1 hmem
      rcases hslot with hrecovering | hempty
      · rcases hrecovering.success with hactive | hrecovering'
        · exact ⟨[.pass results], steps, rfl, hstreak,
            (congrArg (·.backend.isActive) hpass).trans hactive⟩
        · rw [← hpass] at hrecovering'
          rw [List.countP_cons_of_pos rfl, Nat.add_comm _ 1, ← Nat.add_assoc] at hlong
          obtain ⟨before, after, rfl, hcount, hactive⟩ :=
            ih hrecovering'.lt_recovery (.inl hrecovering') hallowed.2 hsuccess' hlong
          refine ⟨.pass results :: before, after, rfl, ?_, hactive⟩
          rwa [List.countP_cons_of_pos rfl, Nat.add_comm _ 1, ← Nat.add_assoc]
      · exact absurd hempty (SlotState.filled_of_worthChecking (s := (r.slotState i).followed) hcheck)

/-- **No backend is ever stuck out of rotation.**  Whatever passes and edits a pool has been through
that started with active and empty slots and without histories, a backend that is out of rotation is
tracked as unhealthy for its endpoint, so the next pass checks it; and it is back, by an edit or by
a check, at the latest after as many passes in a row as the policy asks for that all report its
success. -/
theorem inactive_backend_comes_back (policy : HealthPolicy) {table : SlotTable}
    (htable : ∀ i : Fin 16, (table.get i).address = 0 ∨ (table.get i).isActive = true)
    {steps : List Step} (hsteps : AllowsAll policy { table } steps) (i : Fin 16) :
    let r := run policy { table } steps
    let e : Endpoint := ⟨(r.table.get i).address, (r.table.get i).port⟩
    (r.table.get i).address ≠ 0 → (r.table.get i).isActive = false →
      ((r.health.get i).target = some e ∧ (r.health.get i).healthy = false) ∧
      ((i : ℕ), e) ∈ r.checks ∧
      ∀ later, AllowsAll policy r later →
        (∀ results, .pass results ∈ later → ((i : ℕ), true) ∈ results) →
        max policy.healthyAfter.toNat 1 ≤ later.countP Step.isPass →
        ∃ before after, later = before ++ after ∧
          before.countP Step.isPass ≤ max policy.healthyAfter.toNat 1 ∧
          ((r.run policy before).table.get i).isActive = true := by
  intro r e hfilled hinactive
  have hstart : (Rotation.slotState { table } i).Tracked := fun hfilled hinactive => by
    rcases htable i with hempty | hactive
    · exact absurd hempty hfilled
    · exact absurd (hactive.symm.trans hinactive) (by simp)
  have hdown : (r.slotState i).Stands false false := tracked_run hstart hsteps hfilled hinactive
  have hendpoint : (r.table.get i).endpoint? = some e := Backend.endpoint?_of_ne hfilled
  have hfollowed := SlotState.followed_of_current hdown.current hfilled
  refine ⟨⟨hdown.current.trans hendpoint, hdown.healthy_eq⟩, ?_, fun later hlater hsuccess hlong => ?_⟩
  · refine PoolHealth.mem_targets_iff.2 ⟨i.2, ?_⟩
    have hcheck := hdown.worthChecking.trans hendpoint
    rw [← hfollowed] at hcheck
    exact hcheck
  · have hrecovering : (r.slotState i).Recovering policy 0 :=
      ⟨hfilled, hdown, Nat.zero_le _, Nat.le_max_right _ _⟩
    obtain ⟨before, after, hsplit, hcount, hactive⟩ :=
      exists_active_of_successes hrecovering.lt_recovery (.inl hrecovering) hlater hsuccess
        (by rwa [Nat.zero_add])
    rw [Nat.zero_add] at hcount
    exact ⟨before, after, hsplit, hcount, hactive⟩

/-- A backend that one failure took out is back after two successes, with an edit of another slot
between them. -/
theorem failedBackend_comes_back :
    let policy : HealthPolicy := ⟨500, 2, 1⟩
    let table := SlotTable.empty.setIfInBounds 1 { address := 0x0a000001, port := 5060, flags := 1 }
    let r := run policy { table } [.pass [(1, false)]]
    let later : List Step := [.pass [(1, true)], .edit 4 none, .pass [(1, true)]]
    (r.table.get 1).isActive = false ∧ (r.health.get 1).healthy = false ∧
      (1, ⟨0x0a000001, 5060⟩) ∈ r.checks ∧ AllowsAll policy r later ∧
      ∃ before after, later = before ++ after ∧ before.countP Step.isPass ≤ 2 ∧
        ((r.run policy before).table.get 1).isActive = true := by
  intro policy table r later
  have htable : ∀ i : Fin 16, (table.get i).address = 0 ∨ (table.get i).isActive = true := by
    decide
  have hsteps : AllowsAll policy { table } [.pass [(1, false)]] := by decide +kernel
  have hfilled : (r.table.get 1).address ≠ 0 := by decide +kernel
  have hinactive : (r.table.get 1).isActive = false := by decide +kernel
  have hchecked : (1, ⟨0x0a000001, 5060⟩) ∈ r.checks := by decide +kernel
  have hlater : AllowsAll policy r later := by decide +kernel
  obtain ⟨⟨-, hunhealthy⟩, -, hback⟩ :=
    inactive_backend_comes_back policy htable hsteps 1 hfilled hinactive
  exact ⟨hinactive, hunhealthy, hchecked, hlater,
    hback later hlater (by simp [later]) (by decide)⟩

end Rotation

end VoiceSteering
