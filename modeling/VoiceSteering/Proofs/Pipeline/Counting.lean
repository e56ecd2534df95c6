/-
# What the counters count

Every frame adds to the counters by its length, its class and its verdict alone; `share` says how
much.  A frame of a balanced class adds one to exactly one of three counters, those of dropped, of
transmitted and of passed frames for which there was no backend, because a redirection of a frame
that could be classified is always completed: the one way out of the pipeline that counts nothing
is never taken.  Totals over a run are sums of shares, modulo the size of a word.

Between two frames anything but the counters may change, so a run is a list of frames with the
settings and the memory that each of them meets.
-/
import Mathlib.Algebra.BigOperators.Group.List.Basic
import Mathlib.Algebra.GroupWithZero.Nat
import VoiceSteering.Proofs.Pipeline.InMemory
import VoiceSteering.Proofs.Pipeline.Redirection

namespace VoiceSteering

open VoiceSteering.Frame (Access Header Octets)

/-! ### Classes -/

/-- The class of a frame; nothing if it cannot be classified. -/
def trafficClass? (settings : Settings) (frame : Octets) : Option TrafficClass :=
  (Header.read? frame).map fun h => classify h settings

/-- Whether the class of a frame is balanced over a pool. -/
def isBalanced (settings : Settings) (frame : Octets) : Bool :=
  trafficClass? settings frame = some .signaling ∨ trafficClass? settings frame = some .api

section Classes

variable {settings : Settings} {frame : Octets} {h : Header}

lemma trafficClass?_eq (hread : Header.read? frame = some h) :
    trafficClass? settings frame = some (classify h settings) := by
  rw [trafficClass?, hread, Option.map_some]

lemma isBalanced_eq (hread : Header.read? frame = some h) :
    isBalanced settings frame = (classify h settings).pool?.isSome := by
  rw [isBalanced, trafficClass?_eq hread]
  cases classify h settings <;> rfl

end Classes

/-! ### One frame -/

/-- How much a frame with a verdict adds to a counter. -/
def share (settings : Settings) (frame : Octets) (verdict : Verdict) : Counter → ℕ
  | .packets => 1
  | .bytes => frame.length
  | .signalingRequests => if trafficClass? settings frame = some .signaling then 1 else 0
  | .dropped => if verdict = .drop then 1 else 0
  | .transmitted => if verdict = .transmit then 1 else 0
  | .noBackend => if isBalanced settings frame ∧ verdict = .pass then 1 else 0

section OneFrame

variable {settings : Settings} {frame : Octets} {m : Memory}

lemma value_counted (c : Counter) :
    Tally.value (counted frame m).counters c = Tally.value m.counters c +
      (if c = .packets then 1 else 0) + if c = .bytes then UInt64.ofNat frame.length else 0 := by
  rw [Memory.counted_eq, Counters.value_add, Counters.value_add]
  rfl

lemma Handed.value_eq {h : Header} {pool : Pool} {s : Memory}
    (hhanded : Handed settings h (counted frame m) pool s) (c : Counter) :
    Tally.value s.counters c = Tally.value (counted frame m).counters c +
      if c = .signalingRequests ∧ classify h settings = .signaling then 1 else 0 := by
  cases hhanded with
  | signaling hclass hadmitted =>
    rw [Memory.admission_eq] at hadmitted
    obtain rfl := (Prod.mk.inj hadmitted).2
    simp only [Counters.value_add, hclass, and_true]
  | api hclass => simp [hclass]

lemma Handed.isBalanced {h : Header} {pool : Pool} {s : Memory}
    (hread : Header.read? frame = some h)
    (hhanded : Handed settings h (counted frame m) pool s) :
    VoiceSteering.isBalanced settings frame = true := by
  rw [isBalanced_eq hread, hhanded.pool?_eq, Option.isSome_some]

/-- **What a frame adds to the counters.** -/
theorem value_process (settings : Settings) (frame : Octets) (m : Memory) (c : Counter) :
    Tally.value (process settings frame m).state.counters c = Tally.value m.counters c +
      UInt64.ofNat (share settings frame (process settings frame m).verdict c) := by
  have hending := process_ending settings frame m
  generalize process settings frame m = outcome at hending
  cases hending with
  | unread hread =>
    have hclass : trafficClass? settings frame = none := by rw [trafficClass?, hread, Option.map_none]
    rw [value_counted]
    cases c <;> simp [share, isBalanced, hclass]
  | @unbalanced h hread hclass =>
    rw [value_counted]
    cases hkind : classify h settings with
    | signaling | api =>
      rw [hkind] at hclass
      exact absurd hclass (by decide)
    | media | other => cases c <;> simp [share, isBalanced, trafficClass?_eq hread, hkind]
  | @denied h s hread hclass hdenied =>
    rw [Memory.admission_eq] at hdenied
    obtain rfl := (Prod.mk.inj hdenied).2
    simp only [Datapath.count, Counters.value_add, value_counted]
    cases c <;> simp [share, trafficClass?_eq hread, hclass]
  | noBackend hread hhanded | redirected hread hhanded =>
    have hbalanced := hhanded.isBalanced hread
    simp only [Datapath.count, Counters.value_add, hhanded.value_eq, value_counted]
    cases c <;> simp [share, hbalanced, trafficClass?_eq hread, apply_ite UInt64.ofNat]
  | @abandoned h pool s b left hread hhanded hsome hleft =>
    obtain ⟨sent, hsent, -⟩ := redirect_octets hread settings.checksumMode b
    exact absurd (hsent.symm.trans hleft) (by simp)

/-- Whatever is not passed is of a balanced class. -/
lemma isBalanced_of_verdict_ne_pass (hverdict : (process settings frame m).verdict ≠ .pass) :
    isBalanced settings frame = true := by
  have hending := process_ending settings frame m
  generalize process settings frame m = outcome at hverdict hending
  cases hending with
  | unread | unbalanced | noBackend | abandoned => exact absurd rfl hverdict
  | denied hread hclass => rw [isBalanced_eq hread, hclass]; rfl
  | redirected hread hhanded => exact hhanded.isBalanced hread

/-- A frame of a balanced class has one of three fates, and any other frame has none of them. -/
lemma share_fates (settings : Settings) (frame : Octets) (m : Memory) :
    let verdict := (process settings frame m).verdict
    share settings frame verdict .dropped + share settings frame verdict .transmitted +
      share settings frame verdict .noBackend = if isBalanced settings frame then 1 else 0 := by
  intro verdict
  have hkept : verdict ≠ .pass → isBalanced settings frame = true := isBalanced_of_verdict_ne_pass
  clear_value verdict
  cases verdict with
  | pass => simp [share]
  | drop | transmit => simp [share, hkept]

end OneFrame

/-! ### Runs -/

/-- A frame with the settings and the memory that it meets.  The counters of that memory do not
matter; those that count are the ones that the frame before has left. -/
structure Encounter where
  settings : Settings
  memory : Memory
  frame : Octets

/-- What becomes of the frame when the counters stand at `cs`. -/
def Encounter.outcome (e : Encounter) (cs : Counters) : Outcome Octets Memory :=
  process e.settings e.frame { e.memory with counters := cs }

/-- The counters after a run. -/
def countersAfter (cs : Counters) (es : List Encounter) : Counters :=
  es.foldl (fun cs e => (e.outcome cs).state.counters) cs

/-- The frames of a run with their verdicts. -/
def verdicts : Counters → List Encounter → List (Encounter × Verdict)
  | _, [] => []
  | cs, e :: es => (e, (e.outcome cs).verdict) :: verdicts (e.outcome cs).state.counters es

lemma map_fst_verdicts (cs : Counters) (es : List Encounter) : (verdicts cs es).map Prod.fst = es := by
  induction es generalizing cs with
  | nil => rfl
  | cons e es ih => rw [verdicts, List.map_cons, ih]

lemma exists_outcome_of_mem_verdicts {cs : Counters} {es : List Encounter} {x : Encounter × Verdict}
    (hx : x ∈ verdicts cs es) : ∃ cs', x.2 = (x.1.outcome cs').verdict := by
  induction es generalizing cs with
  | nil => exact absurd hx List.not_mem_nil
  | cons e es ih =>
    rcases List.mem_cons.1 hx with rfl | hx
    · exact ⟨cs, rfl⟩
    · exact ih hx

/-- How much the frames of a run add to a counter, all together. -/
def sumShares (cs : Counters) (es : List Encounter) (c : Counter) : ℕ :=
  ((verdicts cs es).map fun x => share x.1.settings x.1.frame x.2 c).sum

/-- **What a run adds to the counters.** -/
theorem value_countersAfter (cs : Counters) (es : List Encounter) (c : Counter) :
    Tally.value (countersAfter cs es) c = Tally.value cs c + UInt64.ofNat (sumShares cs es c) := by
  induction es generalizing cs with
  | nil => simp [countersAfter, sumShares, verdicts]
  | cons e es ih =>
    have hcons : countersAfter cs (e :: es) = countersAfter (e.outcome cs).state.counters es := rfl
    have hsum : sumShares cs (e :: es) c = share e.settings e.frame (e.outcome cs).verdict c +
        sumShares (e.outcome cs).state.counters es c := List.sum_cons
    rw [hcons, ih, hsum, UInt64.ofNat_add, ← UInt64.add_assoc]
    exact congrArg (· + _) (value_process e.settings e.frame { e.memory with counters := cs } c)

/-! ### Sums of shares -/

section Sums

variable (cs : Counters) (es : List Encounter)

lemma sum_map_ite_eq_countP {α : Type} (p : α → Prop) [DecidablePred p] (l : List α) :
    (l.map fun x => if p x then 1 else 0).sum = l.countP fun x => p x := by
  induction l with
  | nil => rfl
  | cons x l ih =>
    rw [List.map_cons, List.sum_cons, List.countP_cons, ih, Nat.add_comm]
    simp only [decide_eq_true_eq]

/-- A share that depends on the frame alone is summed over the frames. -/
lemma sum_map_verdicts (f : Encounter → ℕ) :
    ((verdicts cs es).map fun x => f x.1).sum = (es.map f).sum := by
  conv_rhs => rw [← map_fst_verdicts cs es, List.map_map]
  rfl

lemma sumShares_packets : sumShares cs es .packets = es.length := by
  refine (sum_map_verdicts cs es fun _ => 1).trans ?_
  rw [List.map_const', List.sum_replicate_nat, Nat.mul_one]

lemma sumShares_bytes : sumShares cs es .bytes = (es.map fun e => e.frame.length).sum :=
  sum_map_verdicts cs es fun e => e.frame.length

lemma sumShares_signalingRequests : sumShares cs es .signalingRequests =
    es.countP fun e => trafficClass? e.settings e.frame = some .signaling :=
  (sum_map_verdicts cs es fun e =>
    if trafficClass? e.settings e.frame = some .signaling then 1 else 0).trans
      (sum_map_ite_eq_countP _ es)

/-- The fates of balanced frames add up to their number. -/
lemma sumShares_fates :
    sumShares cs es .dropped + sumShares cs es .transmitted + sumShares cs es .noBackend =
      es.countP fun e => isBalanced e.settings e.frame := by
  have hfates : ∀ x ∈ verdicts cs es,
      share x.1.settings x.1.frame x.2 .dropped + share x.1.settings x.1.frame x.2 .transmitted +
        share x.1.settings x.1.frame x.2 .noBackend =
      if isBalanced x.1.settings x.1.frame = true then 1 else 0 := by
    intro x hx
    obtain ⟨cs', hverdict⟩ := exists_outcome_of_mem_verdicts hx
    rw [hverdict]
    exact share_fates x.1.settings x.1.frame { x.1.memory with counters := cs' }
  rw [sumShares, sumShares, sumShares, ← List.sum_map_add, ← List.sum_map_add,
    List.map_congr_left hfates,
    sum_map_verdicts cs es fun e => if isBalanced e.settings e.frame = true then 1 else 0,
    sum_map_ite_eq_countP]
  simp only [Bool.decide_eq_true]

end Sums

/-- **Nothing is lost and nothing is counted twice.**  Whatever settings, clock, maps and rate
records the frames of a run meet, each counter is, modulo the size of a word, the number of frames
that it is named after, and the fates of balanced frames add up to their number.  Only a signaling
frame is dropped whose source has reached the limit in a window that is still open. -/
theorem counters_conserved (es : List Encounter) :
    let run := verdicts Counters.zero es
    let total (c : Counter) : ℕ := (Tally.value (countersAfter Counters.zero es) c).toNat
    total .packets = es.length % 2 ^ 64 ∧
    total .bytes = (es.map fun e => e.frame.length).sum % 2 ^ 64 ∧
    total .signalingRequests =
      es.countP (fun e => trafficClass? e.settings e.frame = some .signaling) % 2 ^ 64 ∧
    total .dropped = run.countP (fun x => x.2 = .drop) % 2 ^ 64 ∧
    total .transmitted = run.countP (fun x => x.2 = .transmit) % 2 ^ 64 ∧
    total .noBackend =
      run.countP (fun x => isBalanced x.1.settings x.1.frame ∧ x.2 = .pass) % 2 ^ 64 ∧
    (total .dropped + total .transmitted + total .noBackend) % 2 ^ 64 =
      es.countP (fun e => isBalanced e.settings e.frame) % 2 ^ 64 ∧
    ∀ x ∈ run, (x.2 ≠ .pass → isBalanced x.1.settings x.1.frame) ∧
      (x.2 = .drop ↔ ∃ h r, Header.read? x.1.frame = some h ∧
        classify h x.1.settings = .signaling ∧
        x.1.memory.rates.records.find? h.source = some r ∧
        x.1.memory.clock.toNat ≤ r.windowStart.toNat + x.1.settings.rateWindow.toNat ∧
        x.1.settings.rateLimit ≤ r.count) := by
  intro run total
  have htotal : ∀ c, total c = sumShares Counters.zero es c % 2 ^ 64 := by
    intro c
    have hzero : Tally.value Counters.zero c = 0 := by cases c <;> rfl
    change (Tally.value (countersAfter Counters.zero es) c).toNat = _
    rw [value_countersAfter, hzero, UInt64.zero_add, UInt64.toNat_ofNat']
  refine ⟨?_, ?_, ?_, ?_, ?_, ?_, ?_, fun x hx => ?_⟩
  · rw [htotal, sumShares_packets]
  · rw [htotal, sumShares_bytes]
  · rw [htotal, sumShares_signalingRequests]
  · rw [htotal]
    exact congrArg (· % 2 ^ 64) (sum_map_ite_eq_countP _ run)
  · rw [htotal]
    exact congrArg (· % 2 ^ 64) (sum_map_ite_eq_countP _ run)
  · rw [htotal]
    exact congrArg (· % 2 ^ 64) (sum_map_ite_eq_countP _ run)
  · rw [htotal, htotal, htotal, ← sumShares_fates Counters.zero es]
    omega
  · obtain ⟨cs, hverdict⟩ := exists_outcome_of_mem_verdicts hx
    rw [hverdict]
    exact ⟨isBalanced_of_verdict_ne_pass, process_verdict_eq_drop_iff _ _ _⟩

end VoiceSteering
