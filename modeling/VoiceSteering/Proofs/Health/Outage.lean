/-
# Which failing backends leave the rotation

As many failures in a row as the policy asks for take a backend out of rotation, and it stays out
while its checks fail.  The history has to be healthy for that when the failures begin, or the
backend out of rotation already.

An edit can bring about the one other case.  If it fills a slot with the endpoint that a pass took out
of rotation, the record is active again and the history goes on as it was, unhealthy.  The failures
that follow are no news to the history, so nothing takes the backend out of rotation again.
-/
import VoiceSteering.Proofs.Health.Rotation

namespace VoiceSteering

/-- How many failures in a row take a backend out of rotation. -/
def HealthPolicy.outage (policy : HealthPolicy) : ℕ := max policy.unhealthyAfter.toNat 1

namespace SlotState

variable {policy : HealthPolicy} {s : SlotState} {streak : ℕ} {active : Bool}

/-- After `streak` failures the backend is out of rotation, or they were not enough yet. -/
def Failing (policy : HealthPolicy) (streak : ℕ) (s : SlotState) : Prop :=
  s.Stands false false ∨
    s.Stands true true ∧ streak ≤ s.health.failures.toNat ∧ streak < policy.outage

/-- One more failure. -/
lemma Failing.failure (h : s.Failing policy streak) :
    (s.settled policy false).Failing policy (streak + 1) := by
  rcases h with hdown | ⟨hup, hstreak, -⟩
  · exact .inl hdown.settled_failure
  · have hfailure := hup.settled_failure_of_healthy policy
    split at hfailure
    · exact .inl hfailure
    · next hshort =>
      obtain ⟨hstands, hfailures⟩ := hfailure
      obtain ⟨hsucc, hlt⟩ := Saturating.toNat_succ_of_not_le hshort
      refine .inr ⟨hstands, ?_, ?_⟩
      · rw [hfailures, hsucc]
        exact Nat.succ_le_succ hstreak
      · exact Nat.lt_of_le_of_lt (Nat.succ_le_succ hstreak)
          (Nat.lt_of_lt_of_le hlt (Nat.le_max_left _ _))

/-- A history that is unhealthy when it is up to date has not started over. -/
lemma followed_of_unhealthy (hunhealthy : s.followed.health.healthy = false) :
    s.followed = s := by
  by_cases hempty : s.backend.address = 0
  · simp [followed, PoolHealth.follow, Backend.endpoint?, hempty, SlotHealth.untracked]
      at hunhealthy
  · refine followed_of_current ?_ hempty
    by_contra hcurrent
    rw [followed_of_not_current hcurrent] at hunhealthy
    exact absurd hunhealthy (by simp)

/-- Record and history that agree still agree after a result. -/
lemma Stands.not_renewed_settled (h : s.Stands active active) (ok : Bool) :
    ¬(s.settled policy ok).Stands false true := by
  obtain ⟨state, hstands⟩ : ∃ state, (s.settled policy ok).Stands state state :=
    (h.settled policy ok).elim (fun hsame => ⟨active, hsame⟩) fun hnew => ⟨ok, hnew⟩
  intro hrenewed
  have hfalse : state = false := hstands.healthy_eq.symm.trans hrenewed.healthy_eq
  have htrue : state = true := hstands.active_eq.symm.trans hrenewed.active_eq
  exact absurd (hfalse.symm.trans htrue) Bool.false_ne_true

end SlotState

namespace Rotation

variable {policy : HealthPolicy} {r : Rotation} {i : Fin 16} {steps : List Step}

/-- Every pass of a run reports a failure of a slot, and no edit touches it. -/
structure Fails (i : Fin 16) (steps : List Step) : Prop where
  failure : ∀ results, .pass results ∈ steps → ((i : ℕ), false) ∈ results
  untouched : ∀ backend, .edit i backend ∉ steps

lemma Fails.tail {step : Step} (h : Fails i (step :: steps)) : Fails i steps :=
  ⟨fun results hmem => h.failure results (List.mem_cons_of_mem _ hmem),
    fun backend hmem => h.untouched backend (List.mem_cons_of_mem _ hmem)⟩

lemma Fails.ne_of_edit {slot : ℕ} {backend : Option Backend}
    (h : Fails i (.edit slot backend :: steps)) : slot ≠ i := by
  rintro rfl
  exact h.untouched backend (List.mem_cons_self ..)

/-- The first pass of such a run finds the slot worth checking. -/
lemma exists_worthChecking_of_fails (hallowed : AllowsAll policy r steps) (hfails : Fails i steps)
    (hpass : 0 < steps.countP Step.isPass) :
    ∃ e, PoolHealth.worthChecking (r.slotState i).followed.health (r.slotState i).backend =
      some e := by
  induction steps generalizing r with
  | nil => exact absurd hpass (Nat.lt_irrefl 0)
  | cons step steps ih =>
    cases step with
    | pass results =>
      exact exists_worthChecking hallowed.1 (hfails.failure results (List.mem_cons_self ..))
    | edit slot backend =>
      have hsame := slotState_edit_of_ne r backend hfails.ne_of_edit
      have hrest := ih hallowed.2 hfails.tail hpass
      rwa [perform, hsame] at hrest

/-- What a failure carries on from a slot that is up to date, a run that fails it carries on to its
end. -/
lemma followed_run_of_fails {P : ℕ → SlotState → Prop} (streak : ℕ)
    (hcurrent : ∀ k s, P k s → s.health.target = s.backend.endpoint?)
    (hfailure : ∀ k s, P k s → P (k + 1) (s.settled policy false))
    (hslot : P streak (r.slotState i).followed) (hfilled : (r.slotState i).backend.address ≠ 0)
    (hallowed : AllowsAll policy r steps) (hfails : Fails i steps) :
    P (streak + steps.countP Step.isPass) ((r.run policy steps).slotState i).followed := by
  induction steps generalizing r streak with
  | nil => exact hslot
  | cons step steps ih =>
    cases step with
    | edit slot backend =>
      have hsame := slotState_edit_of_ne r backend hfails.ne_of_edit
      refine ih _ ?_ ?_ hallowed.2 hfails.tail
      · rwa [perform, hsame]
      · rwa [perform, hsame]
    | pass results =>
      have hpass := slotState_pass_of_mem policy hallowed.1
        (hfails.failure results (List.mem_cons_self ..))
      have hnext := hfailure streak _ hslot
      have hfilled' : ((r.slotState i).followed.settled policy false).backend.address ≠ 0 := by
        rwa [SlotState.address_settled]
      rw [List.countP_cons_of_pos rfl, Nat.add_comm _ 1, ← Nat.add_assoc]
      refine ih _ ?_ ?_ hallowed.2 hfails.tail
      · rwa [perform, hpass, SlotState.followed_of_current (hcurrent _ _ hnext) hfilled']
      · rwa [perform, hpass]

/-- **A failing backend leaves the rotation unless an edit has put it back behind its history.**
After as many passes in a row as the policy asks for that all report its failure, a backend is
active exactly if it was active when they began and its history unhealthy for the same endpoint
already. -/
theorem active_after_failures_iff (policy : HealthPolicy) (r : Rotation) {steps : List Step}
    (hsteps : AllowsAll policy r steps) (i : Fin 16)
    (hfailure : ∀ results, .pass results ∈ steps → ((i : ℕ), false) ∈ results)
    (huntouched : ∀ backend, .edit i backend ∉ steps)
    (hlong : max policy.unhealthyAfter.toNat 1 ≤ steps.countP Step.isPass) :
    (r.run policy steps).table[i].isActive = true ↔
      r.table[i].isActive = true ∧ r.health[i].healthy = false ∧
        r.health[i].target = r.table[i].endpoint? := by
  have hfails : Fails i steps := ⟨hfailure, huntouched⟩
  have hone : 1 ≤ policy.outage := Nat.le_max_right _ _
  obtain ⟨e, hcheck⟩ := exists_worthChecking_of_fails hsteps hfails (Nat.le_trans hone hlong)
  have hfilled : (r.slotState i).backend.address ≠ 0 :=
    SlotState.filled_of_worthChecking (s := (r.slotState i).followed) hcheck
  have hout (hfailing : (r.slotState i).followed.Failing policy 0) :
      (r.run policy steps).table[i].isActive = false := by
    have hend : ((r.run policy steps).slotState i).followed.Failing policy
        (0 + steps.countP Step.isPass) := by
      refine followed_run_of_fails 0 (fun k s hs => ?_) (fun k s hs => hs.failure) hfailing hfilled
        hsteps hfails
      exact hs.elim (·.current) (·.1.current)
    rcases hend with hdown | ⟨-, -, hlt⟩
    · exact hdown.active_eq
    · rw [Nat.zero_add] at hlt
      exact absurd hlong (Nat.not_le.2 hlt)
  constructor
  · intro hactive
    rcases SlotState.stands_of_worthChecking hcheck with hup | hrenewed | hdown
    · rw [hout (.inr ⟨hup, Nat.zero_le _, hone⟩)] at hactive
      exact absurd hactive (by simp)
    · rw [SlotState.followed_of_unhealthy hrenewed.healthy_eq] at hrenewed
      exact ⟨hrenewed.active_eq, hrenewed.healthy_eq, hrenewed.current⟩
    · rw [hout (.inl hdown)] at hactive
      exact absurd hactive (by simp)
  · rintro ⟨hactive, hunhealthy, hcurrent⟩
    have hrenewed : (r.slotState i).followed.Stands false true := by
      rw [SlotState.followed_of_current hcurrent hfilled]
      exact ⟨hcurrent, hunhealthy, hactive⟩
    have hend : ((r.run policy steps).slotState i).followed.Stands false true :=
      followed_run_of_fails (P := fun _ s => s.Stands false true) 0
        (fun k s hs => hs.current) (fun k s hs => hs.settled_failure) hrenewed hfilled hsteps hfails
    exact hend.active_eq

/-- Three failures take a backend out of rotation, whatever happens to other slots meanwhile. -/
theorem threeFailures_take_out :
    let policy : HealthPolicy := ⟨500, 2, 3⟩
    let start : Rotation :=
      { table := SlotTable.empty.set 1 { address := 0x0a000001, port := 5060, flags := 1 } }
    let failure : Step := .pass [(1, false)]
    let steps := [failure, failure, .edit 4 none, failure]
    AllowsAll policy start steps ∧ max policy.unhealthyAfter.toNat 1 ≤ steps.countP Step.isPass ∧
      (start.run policy steps).table[(1 : Fin 16)].isActive = false := by
  intro policy start failure steps
  have hsteps : AllowsAll policy start steps := by decide +kernel
  have hlong : max policy.unhealthyAfter.toNat 1 ≤ steps.countP Step.isPass := by decide
  refine ⟨hsteps, hlong, ?_⟩
  have hactive := active_after_failures_iff policy start hsteps 1 (by simp [steps, failure])
    (by simp [steps, failure]) hlong
  have hhealthy : start.health[(1 : Fin 16)].healthy = true := by decide +kernel
  rw [hhealthy] at hactive
  simpa using hactive

/-! ### Edits behind the history -/

/-- Every pass of a run has a result for each slot that it checks. -/
def CoversAll (policy : HealthPolicy) : Rotation → List Step → Prop
  | _, [] => True
  | r, .edit slot backend :: steps => CoversAll policy (r.edit slot backend) steps
  | r, .pass results :: steps =>
    r.checks.map Prod.fst ⊆ results.map Prod.fst ∧ CoversAll policy (r.pass policy results) steps

instance decidableCoversAll (policy : HealthPolicy) :
    (r : Rotation) → (steps : List Step) → Decidable (CoversAll policy r steps)
  | _, [] => isTrue trivial
  | r, .edit slot backend :: steps => decidableCoversAll policy (r.edit slot backend) steps
  | r, .pass results :: steps =>
    have := decidableCoversAll policy (r.pass policy results) steps
    inferInstanceAs (Decidable (r.checks.map Prod.fst ⊆ results.map Prod.fst ∧
      CoversAll policy (r.pass policy results) steps))

/-- A backend is taken out of rotation after two failures.  Then its weight is edited, and three more
failures leave it active. -/
theorem reweighted_backend_stays_active :
    let policy : HealthPolicy := ⟨500, 2, 2⟩
    let b : Backend := { address := 0x0a000001, port := 5060, weight := 100, flags := 1 }
    let start : Rotation := { table := SlotTable.empty.set 1 b }
    let failure : Step := .pass [(1, false)]
    let before := [failure, failure, .edit 1 (some { b with weight := 200 })]
    let failing := [failure, failure, failure]
    (∀ i : Fin 16, (start.table.get i).address = 0 ∨ (start.table.get i).isActive = true) ∧
      AllowsAll policy start (before ++ failing) ∧ CoversAll policy start (before ++ failing) ∧
      max policy.unhealthyAfter.toNat 1 ≤ failing.countP Step.isPass ∧
      ((start.run policy (before ++ failing)).table.get 1).isActive = true := by
  decide +kernel

/-- No pass parts a record from its history. -/
lemma stands_false_true_of_pass {results : List (ℕ × Bool)} (hallowed : r.Allows (.pass results))
    (hslot : ((r.pass policy results).slotState i).Stands false true) :
    (r.slotState i).Stands false true := by
  by_cases hresult : (i : ℕ) ∈ results.map Prod.fst
  · obtain ⟨⟨slot, ok⟩, hmem, rfl⟩ := List.mem_map.1 hresult
    obtain ⟨e, hcheck⟩ := exists_worthChecking hallowed hmem
    rw [slotState_pass_of_mem policy hallowed hmem] at hslot
    rcases SlotState.stands_of_worthChecking hcheck with hup | hrenewed | hdown
    · exact absurd hslot (hup.not_renewed_settled ok)
    · rwa [SlotState.followed_of_unhealthy hrenewed.healthy_eq] at hrenewed
    · exact absurd hslot (hdown.not_renewed_settled ok)
  · rw [slotState_pass_of_notMem hresult] at hslot
    rwa [SlotState.followed_of_unhealthy hslot.healthy_eq] at hslot

/-- Only an edit that fills a slot with an endpoint whose history is unhealthy puts a backend back
behind its history. -/
theorem exists_renewing_edit (hsteps : AllowsAll policy r steps)
    (hstart : ¬(r.slotState i).Stands false true)
    (hend : ((r.run policy steps).slotState i).Stands false true) :
    ∃ earlier b later, steps = earlier ++ .edit i (some b) :: later ∧
      ((r.run policy earlier).health.get i).healthy = false ∧
      ((r.run policy earlier).health.get i).target = b.endpoint? := by
  induction steps generalizing r with
  | nil => exact absurd hend hstart
  | cons step steps ih =>
    by_cases hnext : ((r.perform policy step).slotState i).Stands false true
    · cases step with
      | pass results => exact absurd (stands_false_true_of_pass hsteps.1 hnext) hstart
      | edit slot backend =>
        rcases eq_or_ne slot i with rfl | hne
        · rw [perform, slotState_edit_self hsteps.1] at hnext
          cases backend with
          | none =>
            have hempty : Backend.empty.isActive = true := hnext.active_eq
            exact absurd hempty (by decide)
          | some b => exact ⟨[], b, steps, rfl, hnext.healthy_eq, hnext.current⟩
        · rw [perform, slotState_edit_of_ne r backend hne] at hnext
          exact absurd hnext hstart
    · obtain ⟨earlier, b, later, rfl, hfound⟩ := ih hsteps.2 hnext hend
      exact ⟨step :: earlier, b, later, rfl, hfound⟩

end Rotation

end VoiceSteering
