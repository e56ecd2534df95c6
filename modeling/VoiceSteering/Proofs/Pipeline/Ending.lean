/-
# How a frame leaves the pipeline

A frame has six ways through the pipeline: it cannot be classified, its class is not balanced, the
rate limit denies it, no backend can be selected for it, it is redirected, or its redirection could
not be completed.  `Ending` lists them with everything that is known at each of them, and
`process_ending` says that there is no other.  What is proved about all frames is proved by going
through this list instead of through the branches of `process`.

In between stands `Handed`: the pool that a frame is handed to for balancing, with the state in
which that happens.
-/
import VoiceSteering.Memory
import VoiceSteering.Pipeline
import VoiceSteering.Proofs.Frame.Header

namespace VoiceSteering

open VoiceSteering.Frame (Access Header Octets Guarded)

section Ending

variable {φ σ : Type} [Access φ] [Datapath σ]

/-- The state after a received frame was counted. -/
def counted (frame : φ) (state : σ) : σ :=
  Datapath.count (Datapath.count state .packets 1) .bytes (UInt64.ofNat (Access.length frame))

/-- What the rate limit says to a signaling request of a source, with the state after it. -/
def admission (settings : Settings) (source : Address) (state : σ) : Bool × σ :=
  let state := Datapath.count state .signalingRequests 1
  Rate.allow state source (Datapath.now state) settings.limit

/-- A frame with the given header is handed to a pool for balancing, in the state `s`. -/
inductive Handed (settings : Settings) (h : Header) (state : σ) : Pool → σ → Prop where
  | signaling {s : σ} (hclass : classify h settings = .signaling)
      (hadmitted : admission settings h.source state = (true, s)) :
      Handed settings h state .signaling s
  | api (hclass : classify h settings = .api) : Handed settings h state .api state

/-- A frame is handed to the pool of its class. -/
lemma Handed.pool?_eq {settings : Settings} {h : Header} {state s : σ} {pool : Pool}
    (hhanded : Handed settings h state pool s) : (classify h settings).pool? = some pool := by
  cases hhanded with
  | signaling hclass => rw [hclass]; rfl
  | api hclass => rw [hclass]; rfl

/-- Only transports with a checksum are balanced. -/
lemma Handed.exists_checksumAt? {settings : Settings} {h : Header} {state s : σ} {pool : Pool}
    (hhanded : Handed settings h state pool s) : ∃ offset, h.checksumAt? = some offset := by
  have hclass : classify h settings = .signaling ∨ classify h settings = .api := by
    cases hhanded with
    | signaling hclass => exact .inl hclass
    | api hclass => exact .inr hclass
  cases htransport : h.transport with
  | udp => exact ⟨h.transportOffset + 6, by simp only [Header.checksumAt?, htransport]⟩
  | tcp => exact ⟨h.transportOffset + 16, by simp only [Header.checksumAt?, htransport]⟩
  | other protocol =>
    simp only [classify, htransport] at hclass
    exact absurd hclass (by simp)

/-- The ways in which a frame can leave the pipeline. -/
inductive Ending (settings : Settings) (frame : φ) (state : σ) : Outcome φ σ → Prop where
  /-- The frame cannot be classified. -/
  | unread (hread : Header.read? frame = none) :
      Ending settings frame state ⟨.pass, frame, counted frame state⟩
  /-- The class of the frame is not balanced. -/
  | unbalanced {h : Header} (hread : Header.read? frame = some h)
      (hclass : (classify h settings).pool? = none) :
      Ending settings frame state ⟨.pass, frame, counted frame state⟩
  /-- The rate limit denies a signaling frame. -/
  | denied {h : Header} {s : σ} (hread : Header.read? frame = some h)
      (hclass : classify h settings = .signaling)
      (hdenied : admission settings h.source (counted frame state) = (false, s)) :
      Ending settings frame state ⟨.drop, frame, Datapath.count s .dropped 1⟩
  /-- No backend can be selected. -/
  | noBackend {h : Header} {pool : Pool} {s : σ} (hread : Header.read? frame = some h)
      (hhanded : Handed settings h (counted frame state) pool s)
      (hnone : selectBackend settings pool h s = none) :
      Ending settings frame state ⟨.pass, frame, Datapath.count s .noBackend 1⟩
  /-- The frame points at the selected backend. -/
  | redirected {h : Header} {pool : Pool} {s : σ} {b : Backend} {sent : φ}
      (hread : Header.read? frame = some h)
      (hhanded : Handed settings h (counted frame state) pool s)
      (hsome : selectBackend settings pool h s = some b)
      (hsent : redirect settings.checksumMode frame h b = (true, sent)) :
      Ending settings frame state ⟨.transmit, sent, Datapath.count s .transmitted 1⟩
  /-- The redirection was not completed. -/
  | abandoned {h : Header} {pool : Pool} {s : σ} {b : Backend} {left : φ}
      (hread : Header.read? frame = some h)
      (hhanded : Handed settings h (counted frame state) pool s)
      (hsome : selectBackend settings pool h s = some b)
      (hleft : redirect settings.checksumMode frame h b = (false, left)) :
      Ending settings frame state ⟨.pass, left, s⟩

lemma balance_ending {settings : Settings} {frame : φ} {state s : σ} {h : Header} {pool : Pool}
    (hread : Header.read? frame = some h)
    (hhanded : Handed settings h (counted frame state) pool s) :
    Ending settings frame state (balance settings pool h frame s) := by
  unfold balance
  rcases hselect : selectBackend settings pool h s with _ | b
  · exact .noBackend hread hhanded hselect
  · rcases hredirect : redirect settings.checksumMode frame h b with ⟨_ | _, sent⟩
    · simp only [hredirect]
      exact .abandoned hread hhanded hselect hredirect
    · simp only [hredirect]
      exact .redirected hread hhanded hselect hredirect

/-- **Every frame leaves the pipeline in one of the six ways.** -/
theorem process_ending (settings : Settings) (frame : φ) (state : σ) :
    Ending settings frame state (process settings frame state) := by
  rcases hread : Header.read? frame with _ | h
  · simp only [process, hread]
    exact .unread hread
  · have hprocess : process settings frame state =
        steer settings h frame (counted frame state) := by
      simp only [process, hread]
      rfl
    rw [hprocess]
    cases hclass : classify h settings with
    | signaling =>
      rcases hadmission : admission settings h.source (counted frame state) with ⟨_ | _, s⟩
      · have hsteer : steer settings h frame (counted frame state) =
            ⟨.drop, frame, Datapath.count s .dropped 1⟩ := by
          simp only [admission] at hadmission
          simp only [steer, hclass, hadmission]
        rw [hsteer]
        exact .denied hread hclass hadmission
      · have hsteer : steer settings h frame (counted frame state) =
            balance settings .signaling h frame s := by
          simp only [admission] at hadmission
          simp only [steer, hclass, hadmission]
        rw [hsteer]
        exact balance_ending hread (.signaling hclass hadmission)
    | api =>
      simp only [steer, hclass]
      exact balance_ending hread (.api hclass)
    | media =>
      simp only [steer, hclass]
      exact .unbalanced hread (by rw [hclass]; rfl)
    | other =>
      simp only [steer, hclass]
      exact .unbalanced hread (by rw [hclass]; rfl)

end Ending

end VoiceSteering
