/-
# Which configurations are accepted

The rules of a configuration are checked one after another, but which of them comes first matters
only for the error.  A configuration is accepted exactly if all rules hold and the backends of both
pools can be laid out.
-/
import Mathlib.Tactic.Common
import VoiceSteering.Config.Check

namespace VoiceSteering.Config

/-- All rules hold but those on the placing of backends. -/
structure Sound (c : Config) : Prop where
  media_nonempty : c.ports.mediaStart ≤ c.ports.mediaEnd
  ports_ne_zero : c.ports.signaling ≠ 0 ∧ c.ports.signalingTls ≠ 0 ∧ c.ports.api ≠ 0
  signaling_not_media :
    ¬(c.ports.mediaStart ≤ c.ports.signaling ∧ c.ports.signaling ≤ c.ports.mediaEnd)
  tls_ne_api : c.ports.signalingTls ≠ c.ports.api
  window_ne_zero : c.rateLimit.windowMs ≠ 0
  capacity_ne_zero : c.rateLimit.tableCapacity ≠ 0
  idle_windows_ne_zero : c.rateLimit.sweepIntervalSecs = 0 ∨ c.rateLimit.sweepIdleWindows ≠ 0
  slots_bounds : ∀ pool, 1 ≤ (c.slots pool).toNat ∧ (c.slots pool).toNat ≤ VoiceSteering.slotCount
  report_interval_ne_zero : c.reporting.intervalSecs ≠ 0
  checks : c.checks.enabled = true → (c.checks.intervalSecs ≠ 0 ∧ c.checks.timeoutMs ≠ 0) ∧
    c.checks.healthyThreshold ≠ 0 ∧ c.checks.unhealthyThreshold ≠ 0

lemma require_eq_ok_iff {p : Prop} [Decidable p] {e : Invalid} :
    require p e = .ok () ↔ p := by
  unfold require
  split
  · next hp => exact iff_of_true rfl hp
  · next hp => exact iff_of_false (by simp) hp

/-- A rule and the rules after it. -/
lemma require_bind_eq_ok_iff {p : Prop} [Decidable p] {e : Invalid} {rest : Except Invalid Unit} :
    (require p e >>= fun _ => rest) = .ok () ↔ p ∧ rest = .ok () := by
  unfold require
  split
  · next hp => exact ⟨fun hrest => ⟨hp, hrest⟩, fun h => h.2⟩
  · next hp =>
    constructor
    · intro hrest
      exact absurd (show Except.error e = .ok () from hrest) (by simp)
    · intro h
      exact absurd h.1 hp

variable {c : Config}

lemma checkSections_eq_ok_iff : c.checkSections = .ok () ↔ c.Sound := by
  have hchecks : (if c.checks.enabled = true then do
        require (c.checks.intervalSecs ≠ 0 ∧ c.checks.timeoutMs ≠ 0) .zeroCheckTiming
        require (c.checks.healthyThreshold ≠ 0 ∧ c.checks.unhealthyThreshold ≠ 0) .zeroThreshold
      else pure ()) = .ok () ↔
      (c.checks.enabled = true → (c.checks.intervalSecs ≠ 0 ∧ c.checks.timeoutMs ≠ 0) ∧
        c.checks.healthyThreshold ≠ 0 ∧ c.checks.unhealthyThreshold ≠ 0) := by
    split
    · next henabled => simp only [require_bind_eq_ok_iff, require_eq_ok_iff, henabled, true_imp_iff]
    · next hdisabled => exact ⟨fun _ henabled => absurd henabled hdisabled, fun _ => rfl⟩
  unfold checkSections
  simp only [Pool.all, List.forIn_cons, List.forIn_nil, bind_assoc, pure_bind,
    require_bind_eq_ok_iff, hchecks]
  constructor
  · rintro ⟨hmedia, hports, hsignaling, htcp, hwindow, hcapacity, hidle, hslots, hslots', hreport,
      hchecks⟩
    refine ⟨hmedia, hports, hsignaling, htcp, hwindow, hcapacity, hidle, fun pool => ?_, hreport,
      hchecks⟩
    cases pool with
    | signaling => exact hslots
    | api => exact hslots'
  · rintro ⟨hmedia, hports, hsignaling, htcp, hwindow, hcapacity, hidle, hslots, hreport, hchecks⟩
    exact ⟨hmedia, hports, hsignaling, htcp, hwindow, hcapacity, hidle, hslots .signaling,
      hslots .api, hreport, hchecks⟩

/-- **A configuration is accepted if all rules hold and both pools can be laid out.** -/
theorem isAccepted_iff :
    c.isAccepted = true ↔ c.Sound ∧ ∀ pool, ∃ table, c.slotTable pool = .ok table := by
  have hpools : (∀ pool, ∃ table, c.slotTable pool = .ok table) ↔
      (∃ table, c.slotTable .signaling = .ok table) ∧ ∃ table, c.slotTable .api = .ok table := by
    refine ⟨fun h => ⟨h .signaling, h .api⟩, fun h pool => ?_⟩
    cases pool with
    | signaling => exact h.1
    | api => exact h.2
  rw [hpools, ← checkSections_eq_ok_iff, isAccepted, check, slotTable, slotTable]
  cases c.checkSections with
  | error e => simp [Except.isOk, Except.toBool]
  | ok _ =>
    rcases c.layOut .signaling with ⟨_ | signaling, warnings⟩
    · simp [Except.isOk, Except.toBool]
    · rcases c.layOut .api with ⟨_ | api, more⟩ <;> simp [Except.isOk, Except.toBool]

/-- An accepted configuration can be laid out. -/
lemma exists_slotTable (hc : c.isAccepted = true) (pool : Pool) :
    ∃ table, c.slotTable pool = .ok table :=
  (isAccepted_iff.1 hc).2 pool

end VoiceSteering.Config
