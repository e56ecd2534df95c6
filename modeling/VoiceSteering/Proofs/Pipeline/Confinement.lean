/-
# Which octets of a frame can change

A frame that is passed or dropped leaves the pipeline as it came.  A frame that is sent on differs
from the received one only where it has to point at its backend.  This holds whatever the settings,
the maps and the rate records are, and also when the frame refuses some of the loads on the way:
all loads come before the first store, so a refused one finds nothing changed yet.
-/
import VoiceSteering.Proofs.Pipeline.Redirection

namespace VoiceSteering

open VoiceSteering.Frame (Header Octets Guarded)

variable {σ : Type} [Datapath σ]

/-- **Only the octets that steer a frame to its backend change, and only if it is sent on.**  The
backend is the one selected for the header that was read, in the state in which the frame was handed
to its pool. -/
theorem process_confined (settings : Settings) (frame : Octets) (refusesLoad : ℕ → Bool)
    (state : σ) :
    let received : Guarded Octets := ⟨frame, refusesLoad, fun _ => false⟩
    let outcome := process settings received state
    (outcome.verdict = .pass ∨ outcome.verdict = .drop → outcome.frame.frame = frame) ∧
      (outcome.verdict = .transmit → ∃ h pool s b, Header.read? received = some h ∧
        Handed settings h (counted received state) pool s ∧
        selectBackend settings pool h s = some b ∧
        Redirected settings.checksumMode h b frame outcome.frame.frame) := by
  intro received outcome
  have hending : Ending settings received state outcome := process_ending settings received state
  have hstores : ∀ offset, received.refusesStore offset = false := fun _ => rfl
  clear_value outcome
  cases hending with
  | unread | unbalanced | denied | noBackend => exact ⟨fun _ => rfl, by simp⟩
  | @redirected h pool s b sent hread hhanded hsome hsent =>
    refine ⟨by simp, fun _ => ⟨h, pool, s, b, hread, hhanded, hsome, ?_⟩⟩
    rcases redirect_guarded hstores hread settings.checksumMode b with hrefused | ⟨f, hf, hfacts⟩
    · exact absurd (hrefused.symm.trans hsent) (by simp)
    · obtain rfl : { received with frame := f } = sent := (Prod.mk.inj (hf.symm.trans hsent)).2
      exact hfacts
  | @abandoned h pool s b left hread hhanded hsome hleft =>
    refine ⟨fun _ => ?_, by simp⟩
    rcases redirect_guarded hstores hread settings.checksumMode b with hrefused | ⟨f, hf, -⟩
    · obtain rfl : received = left := (Prod.mk.inj (hrefused.symm.trans hleft)).2
      rfl
    · exact absurd (hf.symm.trans hleft) (by simp)

end VoiceSteering
