/-
# States that answer alike

Besides the frame, the pipeline sees of its state only what the data path answers.  Two states that
answer alike, and go on to answer alike after every operation, therefore lead to the same verdict and
the same frame, and to states that again answer alike.  What a state keeps apart from its answers,
such as the counters, cannot matter.
-/
import Mathlib.Tactic.Common
import VoiceSteering.Memory

namespace VoiceSteering

open VoiceSteering.Frame (Access Header)

/-- States related by `R` answer alike, and they are still related after each operation.  Whether a
rate record was taken is not asked. -/
structure AnswersAlike {σ τ : Type} [Datapath σ] [Datapath τ] (R : σ → τ → Prop) : Prop where
  lookup : ∀ {s t}, R s t → ∀ source,
    (Rate.Store.lookup s source).1 = (Rate.Store.lookup t source).1 ∧
      R (Rate.Store.lookup s source).2 (Rate.Store.lookup t source).2
  update : ∀ {s t}, R s t → ∀ source r,
    R (Rate.Store.update s source r) (Rate.Store.update t source r)
  insert : ∀ {s t}, R s t → ∀ source r,
    R (Rate.Store.insert s source r).2 (Rate.Store.insert t source r).2
  now : ∀ {s t}, R s t → Datapath.now s = Datapath.now t
  backend : ∀ {s t}, R s t → ∀ pool slot, Datapath.backend s pool slot = Datapath.backend t pool slot
  maglevEntry : ∀ {s t}, R s t → ∀ pool index,
    Datapath.maglevEntry s pool index = Datapath.maglevEntry t pool index
  count : ∀ {s t}, R s t → ∀ c n, R (Datapath.count s c n) (Datapath.count t c n)

/-- Two outcomes differ only in their states, and these are related. -/
structure Outcome.SameUpTo {φ σ τ : Type} (R : σ → τ → Prop) (o : Outcome φ σ) (o' : Outcome φ τ) :
    Prop where
  verdict : o.verdict = o'.verdict
  frame : o.frame = o'.frame
  state : R o.state o'.state

section Process

variable {φ σ τ : Type} [Access φ] [Datapath σ] [Datapath τ] {R : σ → τ → Prop} {s : σ} {t : τ}

namespace AnswersAlike

variable (hR : AnswersAlike R) (hst : R s t)
include hR hst

lemma allow (source : Address) (now : UInt64) (limit : Rate.Limit) :
    (Rate.allow s source now limit).1 = (Rate.allow t source now limit).1 ∧
      R (Rate.allow s source now limit).2 (Rate.allow t source now limit).2 := by
  obtain ⟨hfound, hafter⟩ := hR.lookup hst source
  unfold Rate.allow
  rcases hs : Rate.Store.lookup s source with ⟨found, s'⟩
  rcases ht : Rate.Store.lookup t source with ⟨found', t'⟩
  rw [hs, ht] at hfound hafter
  obtain rfl : found = found' := hfound
  cases found with
  | none => exact ⟨rfl, hR.insert hafter source (.opened now)⟩
  | some r =>
    dsimp only
    cases r.allow? limit now with
    | none => exact ⟨rfl, hafter⟩
    | some r' => exact ⟨rfl, hR.update hafter source r'⟩

lemma selectBackend_eq (settings : Settings) (pool : Pool) (h : Header) :
    selectBackend settings pool h s = selectBackend settings pool h t := by
  have hbackend : Datapath.backend s pool = Datapath.backend t pool :=
    funext fun slot => hR.backend hst pool slot
  simp only [selectBackend, selectSlot, hbackend, hR.maglevEntry hst]

lemma balance (settings : Settings) (pool : Pool) (h : Header) (frame : φ) :
    Outcome.SameUpTo R (balance settings pool h frame s) (balance settings pool h frame t) := by
  unfold VoiceSteering.balance
  rw [hR.selectBackend_eq hst]
  cases selectBackend settings pool h t with
  | none => exact ⟨rfl, rfl, hR.count hst _ _⟩
  | some b =>
    rcases hredirect : redirect settings.checksumMode frame h b with ⟨_ | _, left⟩
    · simp only [hredirect]
      exact ⟨rfl, rfl, hst⟩
    · simp only [hredirect]
      exact ⟨rfl, rfl, hR.count hst _ _⟩

lemma steer (settings : Settings) (h : Header) (frame : φ) :
    Outcome.SameUpTo R (steer settings h frame s) (steer settings h frame t) := by
  unfold VoiceSteering.steer
  cases classify h settings with
  | signaling =>
    have hcounted := hR.count hst .signalingRequests 1
    have hallow := hR.allow hcounted h.source (Datapath.now (Datapath.count t .signalingRequests 1))
      settings.limit
    dsimp only
    rw [hR.now hcounted]
    rcases hs : Rate.allow (Datapath.count s .signalingRequests 1) h.source
      (Datapath.now (Datapath.count t .signalingRequests 1)) settings.limit with ⟨allowed, s'⟩
    rcases ht : Rate.allow (Datapath.count t .signalingRequests 1) h.source
      (Datapath.now (Datapath.count t .signalingRequests 1)) settings.limit with ⟨allowed', t'⟩
    rw [hs, ht] at hallow
    obtain ⟨rfl, hafter⟩ : allowed = allowed' ∧ R s' t' := hallow
    cases allowed with
    | false => exact ⟨rfl, rfl, hR.count hafter _ _⟩
    | true => exact hR.balance hafter settings .signaling h frame
  | api => exact hR.balance hst settings .api h frame
  | media | other => exact ⟨rfl, rfl, hst⟩

end AnswersAlike

/-- **The pipeline sees of a state only what it answers.** -/
theorem process_sameUpTo (hR : AnswersAlike R) (hst : R s t) (settings : Settings) (frame : φ) :
    Outcome.SameUpTo R (process settings frame s) (process settings frame t) := by
  have hcounted := hR.count (hR.count hst .packets 1) .bytes (UInt64.ofNat (Access.length frame))
  unfold process
  cases Header.read? frame with
  | none => exact ⟨rfl, rfl, hcounted⟩
  | some h => exact hR.steer hcounted settings h frame

end Process

/-! ### Memories with other counters -/

namespace Memory

/-- The memory with its counters replaced. -/
def withCounters (m : Memory) (cs : Counters) : Memory := { m with counters := cs }

/-- Nobody asks what the counters are. -/
lemma answersAlike_withCounters : AnswersAlike fun m m' : Memory => ∃ cs, m' = m.withCounters cs where
  lookup := by
    rintro m _ ⟨cs, rfl⟩ source
    exact ⟨rfl, cs, rfl⟩
  update := by
    rintro m _ ⟨cs, rfl⟩ source r
    exact ⟨cs, rfl⟩
  insert := by
    rintro m _ ⟨cs, rfl⟩ source r
    exact ⟨cs, rfl⟩
  now := by
    rintro m _ ⟨cs, rfl⟩
    rfl
  backend := by
    rintro m _ ⟨cs, rfl⟩ pool slot
    rfl
  maglevEntry := by
    rintro m _ ⟨cs, rfl⟩ pool index
    rfl
  count := by
    rintro m _ ⟨cs, rfl⟩ c n
    exact ⟨cs.add c n, rfl⟩

end Memory

end VoiceSteering
