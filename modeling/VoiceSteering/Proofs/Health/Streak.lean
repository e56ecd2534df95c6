/-
# Streaks of results

A history does not keep the results of its checks.  It keeps two octets, which count the failures and
the successes in a row up to 255, and a flag.  That is enough: no policy asks for more than 255 results
in a row, so the octets tell whether the last results are all of one kind and as many as the policy asks
for, however long the run is.

So the flag follows from the results alone.  It is what the last streak that was long enough has made of
it.
-/
import Mathlib.Data.List.DropRight
import VoiceSteering.Proofs.Health.Outage
import VoiceSteering.Proofs.Health.Recovery

namespace VoiceSteering

namespace HealthPolicy

/-- How many results of one kind in a row change the state of a backend. -/
def needed (policy : HealthPolicy) (ok : Bool) : ℕ := if ok then policy.recovery else policy.outage

/-- The last results are all of one kind, as many as change the state of a backend. -/
def Completes (policy : HealthPolicy) (ok : Bool) (results : List Bool) : Prop :=
  List.replicate (policy.needed ok) ok <:+ results

instance (policy : HealthPolicy) (ok : Bool) : DecidablePred (policy.Completes ok) :=
  fun results => inferInstanceAs (Decidable (List.replicate (policy.needed ok) ok <:+ results))

/-- The history of a slot after some results; it is not checked before the first one. -/
def historyOf (policy : HealthPolicy) (results : List Bool) : SlotHealth :=
  results.foldl (fun h ok => (h.record policy ok).1) .untracked

lemma historyOf_concat (policy : HealthPolicy) (results : List Bool) (ok : Bool) :
    policy.historyOf (results ++ [ok]) = ((policy.historyOf results).record policy ok).1 :=
  List.foldl_concat ..

end HealthPolicy

/-! ### Results in a row -/

/-- How many results of one kind a run ends with. -/
def streak (ok : Bool) (results : List Bool) : ℕ := (results.rtakeWhile (· == ok)).length

section Streak

variable {ok : Bool} {results : List Bool}

lemma streak_concat_self : streak ok (results ++ [ok]) = streak ok results + 1 := by
  simp [streak]

lemma streak_concat_not : streak ok (results ++ [!ok]) = 0 := by
  simp [streak]

lemma replicate_suffix_iff {n : ℕ} :
    List.replicate n ok <:+ results ↔ n ≤ streak ok results := by
  induction results using List.reverseRecOn generalizing n with
  | nil => simp [streak]
  | append_singleton results latest ih =>
    cases n with
    | zero => simp
    | succ n =>
      have hlast : List.replicate n ok ++ [ok] <:+ results ++ [latest] ↔
          List.replicate n ok <:+ results ∧ [ok] = [latest] :=
        List.suffix_append_inj_of_length_eq rfl
      rw [List.replicate_succ', hlast, ih]
      rcases eq_or_ne latest ok with rfl | hne
      · simp [streak_concat_self]
      · obtain rfl := Bool.eq_not.2 hne
        simp [streak_concat_not]

end Streak

/-! ### What a history counts -/

namespace SlotHealth

variable {policy : HealthPolicy} {h : SlotHealth} {results : List Bool}

/-- The new state is told if it is another one than before. -/
lemma record_answer (policy : HealthPolicy) (h : SlotHealth) (ok : Bool) :
    (h.record policy ok).2 = if (h.record policy ok).1.healthy = h.healthy then none
      else some (h.record policy ok).1.healthy := by
  cases ok with
  | false =>
    cases hhealthy : h.healthy
    · simp [record, hhealthy]
    · by_cases hlong : policy.unhealthyAfter ≤ Saturating.succ h.failures
      · simp [record, hhealthy, hlong]
      · simp [record, hhealthy, hlong]
  | true =>
    cases hhealthy : h.healthy
    · by_cases hlong : policy.healthyAfter ≤ Saturating.succ h.successes
      · simp [record, hhealthy, hlong]
      · simp [record, hhealthy, hlong]
    · simp [record, hhealthy]

/-- The octets of a history are the streaks that its results end with, as far as an octet counts. -/
structure Counts (h : SlotHealth) (results : List Bool) : Prop where
  failures : h.failures.toNat = min (streak false results) 255
  successes : h.successes.toNat = min (streak true results) 255

lemma toNat_succ_of_streak {count : UInt8} {ok : Bool}
    (hcount : count.toNat = min (streak ok results) 255) :
    (Saturating.succ count).toNat = min (streak ok (results ++ [ok])) 255 := by
  rw [Saturating.toNat_succ, streak_concat_self, hcount]
  omega

lemma Counts.record (hcounts : h.Counts results) (policy : HealthPolicy) (ok : Bool) :
    (h.record policy ok).1.Counts (results ++ [ok]) := by
  cases ok with
  | false =>
    rw [record_failure]
    refine ⟨toNat_succ_of_streak hcounts.failures, ?_⟩
    rw [show streak true (results ++ [false]) = 0 from streak_concat_not]
    rfl
  | true =>
    rw [record_success]
    refine ⟨?_, toNat_succ_of_streak hcounts.successes⟩
    rw [show streak false (results ++ [true]) = 0 from streak_concat_not]
    rfl

lemma counts_historyOf (policy : HealthPolicy) (results : List Bool) :
    (policy.historyOf results).Counts results := by
  induction results using List.reverseRecOn with
  | nil => exact ⟨rfl, rfl⟩
  | append_singleton results ok ih =>
    rw [HealthPolicy.historyOf_concat]
    exact ih.record policy ok

/-- An octet reaches a threshold when the streak does: no threshold is beyond 255, and none is met by
no result at all. -/
lemma le_iff_of_streak {threshold count : UInt8} {n : ℕ} (hcount : count.toNat = min n 255)
    (hpos : 0 < n) : threshold ≤ count ↔ max threshold.toNat 1 ≤ n := by
  have hthreshold := threshold.toNat_lt
  rw [UInt8.le_iff_toNat_le, hcount]
  omega

end SlotHealth

/-! ### Streaks that are long enough -/

namespace HealthPolicy

open SlotHealth (counts_historyOf)

variable {policy : HealthPolicy} {ok : Bool} {results : List Bool}

lemma completes_iff : policy.Completes ok results ↔ policy.needed ok ≤ streak ok results :=
  replicate_suffix_iff

lemma one_le_needed (policy : HealthPolicy) (ok : Bool) : 1 ≤ policy.needed ok := by
  cases ok with
  | false => exact Nat.le_max_right _ _
  | true => exact Nat.le_max_right _ _

/-- No streak of one kind ends with a result of the other. -/
lemma not_completes_concat_not (ok : Bool) : ¬policy.Completes ok (results ++ [!ok]) := by
  rw [completes_iff, streak_concat_not, Nat.le_zero]
  exact Nat.one_le_iff_ne_zero.1 (policy.one_le_needed ok)

lemma not_completes_nil : ¬policy.Completes ok [] := by
  rw [completes_iff]
  exact Nat.not_le.2 (policy.one_le_needed ok)

lemma le_failures_iff (policy : HealthPolicy) (results : List Bool) :
    policy.unhealthyAfter ≤ Saturating.succ (policy.historyOf results).failures ↔
      policy.Completes false (results ++ [false]) := by
  have hcount := SlotHealth.toNat_succ_of_streak (counts_historyOf policy results).failures
  rw [completes_iff]
  exact SlotHealth.le_iff_of_streak hcount (by simp [streak_concat_self])

lemma le_successes_iff (policy : HealthPolicy) (results : List Bool) :
    policy.healthyAfter ≤ Saturating.succ (policy.historyOf results).successes ↔
      policy.Completes true (results ++ [true]) := by
  have hcount := SlotHealth.toNat_succ_of_streak (counts_historyOf policy results).successes
  rw [completes_iff]
  exact SlotHealth.le_iff_of_streak hcount (by simp [streak_concat_self])

/-- One more result. -/
lemma healthy_historyOf_concat (policy : HealthPolicy) (results : List Bool) (ok : Bool) :
    (policy.historyOf (results ++ [ok])).healthy =
      if policy.Completes false (results ++ [ok]) then false
      else if policy.Completes true (results ++ [ok]) then true
      else (policy.historyOf results).healthy := by
  rw [historyOf_concat]
  cases ok with
  | false =>
    have hother : ¬policy.Completes true (results ++ [false]) := not_completes_concat_not true
    rw [SlotHealth.record_failure]
    by_cases hlong : policy.Completes false (results ++ [false])
    · simp [hlong, (le_failures_iff policy results).2 hlong]
    · simp [hlong, hother, mt (le_failures_iff policy results).1 hlong]
  | true =>
    have hother : ¬policy.Completes false (results ++ [true]) := not_completes_concat_not false
    rw [SlotHealth.record_success]
    by_cases hlong : policy.Completes true (results ++ [true])
    · simp [hlong, hother, (le_successes_iff policy results).2 hlong]
    · simp [hlong, hother, mt (le_successes_iff policy results).1 hlong]

/-- Two streaks of different kinds do not end with one result. -/
lemma not_completes_both (policy : HealthPolicy) (results : List Bool) :
    ¬(policy.Completes false results ∧ policy.Completes true results) := by
  rintro ⟨hfailed, hsucceeded⟩
  induction results using List.reverseRecOn with
  | nil => exact not_completes_nil hfailed
  | append_singleton results ok =>
    cases ok with
    | false => exact not_completes_concat_not true hsucceeded
    | true => exact not_completes_concat_not false hfailed

/-- A backend is unhealthy if the last streak that was long enough is one of failures. -/
lemma healthy_historyOf_eq_false_iff (policy : HealthPolicy) (results : List Bool) :
    (policy.historyOf results).healthy = false ↔
      ∃ seen, seen <+: results ∧ policy.Completes false seen ∧
        ∀ more, seen <+: more → more <+: results → ¬policy.Completes true more := by
  induction results using List.reverseRecOn with
  | nil =>
    constructor
    · intro hhealthy
      exact absurd (show true = false from hhealthy) (by simp)
    · rintro ⟨seen, hseen, hfailed, -⟩
      rw [List.prefix_nil] at hseen
      rw [hseen] at hfailed
      exact absurd hfailed not_completes_nil
  | append_singleton results ok ih =>
    rw [healthy_historyOf_concat]
    split
    · next hfailed =>
      refine ⟨fun _ => ⟨_, List.prefix_rfl, hfailed, ?_⟩, fun _ => rfl⟩
      intro more hmore hmore' hsucceeded
      obtain rfl := hmore'.eq_of_length_le hmore.length_le
      exact not_completes_both policy _ ⟨hfailed, hsucceeded⟩
    · split
      · next hfailed hsucceeded =>
        refine ⟨fun hhealthy => absurd hhealthy (by simp), ?_⟩
        rintro ⟨seen, hseen, -, hlast⟩
        exact absurd hsucceeded (hlast _ hseen List.prefix_rfl)
      · next hfailed hsucceeded =>
        -- the last result completes no streak, so it changes neither side
        rw [ih]
        constructor
        · rintro ⟨seen, hseen, hcompletes, hlast⟩
          refine ⟨seen, hseen.trans (List.prefix_append _ _), hcompletes, fun more hmore hmore' => ?_⟩
          rcases List.prefix_concat_iff.1 hmore' with rfl | hmore'
          · exact hsucceeded
          · exact hlast more hmore hmore'
        · rintro ⟨seen, hseen, hcompletes, hlast⟩
          rcases List.prefix_concat_iff.1 hseen with rfl | hseen
          · exact absurd hcompletes hfailed
          · exact ⟨seen, hseen, hcompletes, fun more hmore hmore' =>
              hlast more hmore (hmore'.trans (List.prefix_append _ _))⟩

/-- **The last results decide on the state of a backend.**  It is healthy at first.  A result leaves it
unhealthy if it completes a streak of failures, as many as the policy asks for and at least one, healthy
if it completes one of successes, and as it was before if it completes none; the new state is told
exactly when it is another one.  So a backend is unhealthy if the last streak that was completed is one
of failures, whatever the history is able to count. -/
theorem state_follows_streaks (policy : HealthPolicy) (results : List Bool) (ok : Bool) :
    let before := policy.historyOf results
    let after := before.record policy ok
    (policy.historyOf []).healthy = true ∧ policy.historyOf (results ++ [ok]) = after.1 ∧
      ¬(policy.Completes false (results ++ [ok]) ∧ policy.Completes true (results ++ [ok])) ∧
      after.1.healthy = (if policy.Completes false (results ++ [ok]) then false
        else if policy.Completes true (results ++ [ok]) then true else before.healthy) ∧
      after.2 = (if after.1.healthy = before.healthy then none else some after.1.healthy) ∧
      (before.healthy = false ↔
        ∃ seen, seen <+: results ∧ policy.Completes false seen ∧
          ∀ more, seen <+: more → more <+: results → ¬policy.Completes true more) := by
  intro before after
  have hafter : policy.historyOf (results ++ [ok]) = after.1 := historyOf_concat policy results ok
  refine ⟨rfl, hafter, not_completes_both policy _, ?_, before.record_answer policy ok,
    healthy_historyOf_eq_false_iff policy results⟩
  rw [← hafter]
  exact healthy_historyOf_concat policy results ok

end HealthPolicy

end VoiceSteering
