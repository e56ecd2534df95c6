/-
# How far the pipeline reaches into a frame

Every access of the pipeline ends within the first 94 octets of a frame, whatever the frame holds:
a transport header starts at octet 74 at the latest, because the length of an IPv4 header is a field
of four bits, and no access goes beyond the twenty octets of a TCP header.

So two accessors that answer these accesses in the same way cannot be told apart.  `Alike` says when
the frames of two accessors answer alike, and `process_alike` that the pipeline then comes to the
same verdict in the same state, and leaves frames that answer alike again.
-/
import Mathlib.Tactic.Common
import VoiceSteering.Proofs.Pipeline.Ending

namespace VoiceSteering

open VoiceSteering.Frame (Access Header Transport load16)

/-- No access of the pipeline ends behind this offset. -/
def reach : ℕ := 94

variable {φ ψ σ : Type} [Access φ] [Access ψ] [Datapath σ]

/-- Frames of two accessors that stand in a relation answer alike: they have the same length, a load
within reach returns the same, and a store within reach is taken by both of them or by neither, and
leaves them in the relation. -/
structure Alike (R : φ → ψ → Prop) : Prop where
  length_eq : ∀ {f g}, R f g → Access.length f = Access.length g
  load_eq : ∀ {f g offset n}, R f g → offset + n ≤ reach →
    Access.load f offset n = Access.load g offset n
  store : ∀ {f g offset n} (v : Vector UInt8 n), R f g → offset + n ≤ reach →
    Option.Rel R (Access.store f offset v) (Access.store g offset v)

/-- Two outcomes that differ at most in their frames, which answer alike. -/
structure Outcome.Alike (R : φ → ψ → Prop) (a : Outcome φ σ) (b : Outcome ψ σ) : Prop where
  verdict_eq : a.verdict = b.verdict
  state_eq : a.state = b.state
  frame : R a.frame b.frame

/-! ### Patches within reach -/

/-- The checksum of a transport header ends within reach. -/
lemma reach_of_checksumAt? {f : φ} {h : Header} {offset : ℕ} (hread : Header.read? f = some h)
    (hat : h.checksumAt? = some offset) : offset + 2 ≤ reach := by
  have hend := (Header.checksumAt?_bounds hat).2.1
  have hoffset := (Header.transportOffset_bounds hread).2
  have hlength : h.transport.minLength ≤ 20 := by
    cases h.transport <;> simp [Transport.minLength]
  simp only [reach]
  omega

lemma reach_of_transportPatches {f : φ} {h : Header} {old new : Vector UInt8 4} {ps : List Patch}
    (hread : Header.read? f = some h) (hps : transportPatches f h old new = some ps) :
    ∀ p ∈ ps, p.offset + p.size ≤ reach := by
  intro p hp
  rcases hat : h.checksumAt? with _ | offset
  · simp only [transportPatches, hat, Option.some_inj] at hps
    subst hps
    exact absurd hp List.not_mem_nil
  · simp only [transportPatches, hat, Option.bind_eq_bind, Option.bind_eq_some_iff] at hps
    obtain ⟨checksum, -, hps⟩ := hps
    split at hps
    · obtain rfl := Option.some_inj.1 hps
      exact absurd hp List.not_mem_nil
    · obtain rfl := Option.some_inj.1 hps
      obtain rfl := List.mem_singleton.1 hp
      exact reach_of_checksumAt? hread hat

lemma reach_of_checksumPatches {f : φ} {h : Header} {mode : ChecksumMode}
    {old new : Vector UInt8 4} {ps : List Patch} (hread : Header.read? f = some h)
    (hps : checksumPatches mode f h old new = some ps) : ∀ p ∈ ps, p.offset + p.size ≤ reach := by
  cases mode with
  | offload =>
    obtain rfl := Option.some_inj.1 hps
    simp [Frame.ipv4ChecksumAt, reach]
  | incremental =>
    simp only [checksumPatches, Option.bind_eq_bind, Option.bind_eq_some_iff] at hps
    obtain ⟨checksum, -, rest, hrest, hps⟩ := hps
    obtain rfl := Option.some_inj.1 hps
    simp only [List.mem_cons, forall_eq_or_imp]
    exact ⟨by simp [Frame.ipv4ChecksumAt, reach], reach_of_transportPatches hread hrest⟩

lemma reach_of_redirection {f : φ} {h : Header} {mode : ChecksumMode} {b : Backend}
    {ps : List Patch} (hread : Header.read? f = some h)
    (hps : redirection mode f h b = some ps) : ∀ p ∈ ps, p.offset + p.size ≤ reach := by
  simp only [redirection, Option.bind_eq_bind, Option.bind_eq_some_iff] at hps
  obtain ⟨destination, -, source, -, old, -, checksums, hchecksums, hps⟩ := hps
  obtain rfl := Option.some_inj.1 hps
  simp only [List.mem_cons, forall_eq_or_imp]
  refine ⟨?_, ?_, ?_, reach_of_checksumPatches hread hchecksums⟩ <;>
    simp [Frame.linkDestinationAt, Frame.linkSourceAt, Frame.ipv4DestinationAt, reach]

/-! ### The same answers, the same outcome -/

namespace Alike

variable {R : φ → ψ → Prop} (hR : Alike R) {f : φ} {g : ψ} (hfg : R f g) {h : Header}

include hR hfg

lemma load16_eq {offset : ℕ} (hle : offset + 2 ≤ reach) : load16 f offset = load16 g offset :=
  congrArg (Option.map Frame.word16Of) (hR.load_eq hfg hle)

lemma ports?_eq (transport : Transport) (fragment : UInt16) {offset : ℕ} (hle : offset ≤ 74) :
    transport.ports? fragment f offset = transport.ports? fragment g offset := by
  have hports : ∀ n ≤ 20, Frame.ports? f offset n = Frame.ports? g offset n := by
    intro n hn
    rw [Frame.ports?, Frame.ports?, hR.load_eq hfg (by simp only [reach]; omega),
      hR.load_eq hfg (by simp only [reach]; omega)]
  cases transport with
  | other => rfl
  | udp => rw [Transport.ports?, Transport.ports?, hports 8 (by decide)]
  | tcp => rw [Transport.ports?, Transport.ports?, hports 20 (by decide)]

/-- Frames that answer alike have the same header. -/
lemma read?_eq : Header.read? f = Header.read? g := by
  unfold Header.read?
  rw [hR.load16_eq hfg (by decide), hR.load_eq hfg (by decide)]
  refine bind_congr fun linkType => bind_congr fun _ => bind_congr fun ip =>
    bind_congr fun _ => bind_congr fun _ => ?_
  have hoffset : Frame.ipv4At + 4 * (ip[0].toNat % 16) ≤ 74 := by
    simp only [Frame.ipv4At]
    omega
  dsimp only
  rw [hR.ports?_eq hfg _ _ hoffset]

lemma transportPatches_eq (hread : Header.read? f = some h) (old new : Vector UInt8 4) :
    transportPatches f h old new = transportPatches g h old new := by
  rcases hat : h.checksumAt? with _ | offset
  · simp only [transportPatches, hat]
  · simp only [transportPatches, hat]
    rw [hR.load16_eq hfg (reach_of_checksumAt? hread hat)]

lemma redirection_eq (hread : Header.read? f = some h) (mode : ChecksumMode) (b : Backend) :
    redirection mode f h b = redirection mode g h b := by
  have hchecksums : ∀ old new, checksumPatches mode f h old new =
      checksumPatches mode g h old new := by
    intro old new
    cases mode with
    | offload => rfl
    | incremental =>
      rw [checksumPatches, checksumPatches, hR.transportPatches_eq hfg hread,
        hR.load16_eq hfg (by decide)]
  unfold redirection
  rw [hR.load_eq hfg (by decide), hR.load_eq hfg (by decide), hR.load_eq hfg (by decide)]
  simp only [hchecksums]

omit hfg in
/-- The induction is on the patches: a refused one is refused by both frames, and the rest is stored
all the same. -/
lemma applyPatches_alike {ps : List Patch} (hps : ∀ p ∈ ps, p.offset + p.size ≤ reach)
    (hfg : R f g) : (applyPatches ps f).1 = (applyPatches ps g).1 ∧
      R (applyPatches ps f).2 (applyPatches ps g).2 := by
  induction ps generalizing f g with
  | nil => exact ⟨rfl, hfg⟩
  | cons p ps ih =>
    have hrest : ∀ q ∈ ps, q.offset + q.size ≤ reach := fun q hq => hps q (by simp [hq])
    have hstore := hR.store p.octets hfg (hps p (by simp))
    cases hf : Access.store f p.offset p.octets with
    | none =>
      rw [hf] at hstore
      cases hg : Access.store g p.offset p.octets with
      | none =>
        simp only [applyPatches, hf, hg]
        exact ⟨trivial, (ih hrest hfg).2⟩
      | some g' =>
        rw [hg] at hstore
        cases hstore
    | some f' =>
      rw [hf] at hstore
      cases hg : Access.store g p.offset p.octets with
      | none =>
        rw [hg] at hstore
        cases hstore
      | some g' =>
        rw [hg] at hstore
        cases hstore with
        | some hstored =>
          simp only [applyPatches, hf, hg]
          exact ih hrest hstored

lemma redirect_alike (hread : Header.read? f = some h) (mode : ChecksumMode) (b : Backend) :
    (redirect mode f h b).1 = (redirect mode g h b).1 ∧
      R (redirect mode f h b).2 (redirect mode g h b).2 := by
  rcases hps : redirection mode f h b with _ | ps
  · rw [redirect, redirect, ← hR.redirection_eq hfg hread, hps]
    exact ⟨rfl, hfg⟩
  · rw [redirect, redirect, ← hR.redirection_eq hfg hread, hps]
    exact hR.applyPatches_alike (reach_of_redirection hread hps) hfg

lemma balance_alike (hread : Header.read? f = some h) (settings : Settings) (pool : Pool)
    (state : σ) :
    Outcome.Alike R (balance settings pool h f state) (balance settings pool h g state) := by
  unfold balance
  cases selectBackend settings pool h state with
  | none => exact ⟨rfl, rfl, hfg⟩
  | some b =>
    obtain ⟨hdone, hleft⟩ := hR.redirect_alike hfg hread settings.checksumMode b
    rcases hf : redirect settings.checksumMode f h b with ⟨done, f'⟩
    rcases hg : redirect settings.checksumMode g h b with ⟨done', g'⟩
    rw [hf, hg] at hdone hleft
    obtain rfl : done = done' := hdone
    dsimp only
    rw [hf, hg]
    cases done with
    | true => exact ⟨rfl, rfl, hleft⟩
    | false => exact ⟨rfl, rfl, hleft⟩

end Alike

/-- **The pipeline sees of a frame only what its accessor answers within reach.** -/
theorem process_alike {R : φ → ψ → Prop} (hR : Alike R) {f : φ} {g : ψ} (hfg : R f g)
    (settings : Settings) (state : σ) :
    Outcome.Alike R (process settings f state) (process settings g state) := by
  unfold process
  rw [hR.length_eq hfg, hR.read?_eq hfg]
  cases hread : Header.read? g with
  | none => exact ⟨rfl, rfl, hfg⟩
  | some h =>
    have hreadf : Header.read? f = some h := (hR.read?_eq hfg).trans hread
    simp only [steer]
    cases classify h settings with
    | signaling =>
      dsimp only
      split
      · exact ⟨rfl, rfl, hfg⟩
      · exact hR.balance_alike hfg hreadf settings .signaling _
    | api => exact hR.balance_alike hfg hreadf settings .api _
    | media => exact ⟨rfl, rfl, hfg⟩
    | other => exact ⟨rfl, rfl, hfg⟩

end VoiceSteering
