/-
# Totals over all cores

Each core that runs the pipeline adds to counters of its own, while all cores share the maps.  The
counters do not matter for what becomes of a frame, so a run takes the same course whichever core
receives which frame, and each core counts exactly the frames that it received.  The totals over all
cores are therefore those of the run as a whole, as long as no counter of a core overflows: then only
the 128-bit sum could, and for that there would have to be more cores than a machine word can number.

`encounters` is the course of a run, without any cores; `received` picks from it what one core got.
-/
import Mathlib.Algebra.BigOperators.Fin
import Mathlib.Algebra.Order.BigOperators.Group.Finset
import Mathlib.Tactic.FinCases
import VoiceSteering.Proofs.Pipeline.Affinity
import VoiceSteering.Proofs.Pipeline.Counting
import VoiceSteering.Proofs.Pipeline.States
import VoiceSteering.Snapshot

namespace VoiceSteering

open VoiceSteering.Frame (Access Header Octets)

/-! ### One core among many -/

/-- What a program on one of `n` cores works on: maps that all cores share, and counters that each
core has for itself.  Nothing is added to the counters beside the shared maps. -/
structure OnCore (n : ℕ) where
  shared : Memory
  counters : Fin n → Counters
  core : Fin n

instance {n : ℕ} : Datapath (OnCore n) where
  lookup s source := (s.shared.rates.records.find? source, s)
  update s source r := { s with shared := Rate.Store.update s.shared source r }
  insert s source r :=
    let (taken, shared) := Rate.Store.insert s.shared source r
    (taken, { s with shared })
  now s := s.shared.clock
  backend s := Datapath.backend s.shared
  maglevEntry s := Datapath.maglevEntry s.shared
  count s c k :=
    { s with counters := Function.update s.counters s.core ((s.counters s.core).add c k) }

section OneCore

variable {n : ℕ} (beside : Counters) (counters : Fin n → Counters) (core : Fin n)

/-- A memory with its counters on one core; `beside` are those that nobody adds to. -/
def Memory.onCore (m : Memory) : OnCore n :=
  ⟨m.withCounters beside, Function.update counters core m.counters, core⟩

lemma Memory.count_onCore (m : Memory) (c : Counter) (k : UInt64) :
    Datapath.count (m.onCore beside counters core) c k =
      (Datapath.count m c k).onCore beside counters core := by
  simp only [Datapath.count, Memory.onCore, Memory.withCounters, Function.update_self,
    Function.update_idem]

/-- The program on a core sees the shared maps and the counters of that core. -/
lemma answersAlike_onCore :
    AnswersAlike fun (s : OnCore n) (m : Memory) => s = m.onCore beside counters core where
  lookup := by
    rintro _ m rfl source
    exact ⟨rfl, rfl⟩
  update := by
    rintro _ m rfl source r
    rfl
  insert := by
    rintro _ m rfl source r
    rfl
  now := by
    rintro _ m rfl
    rfl
  backend := by
    rintro _ m rfl pool slot
    rfl
  maglevEntry := by
    rintro _ m rfl pool index
    rfl
  count := by
    rintro _ m rfl c k
    exact m.count_onCore beside counters core c k

end OneCore

/-! ### Runs -/

/-- A frame that arrives, with the settings that it meets and what has happened to the shared maps
since the frame before: time has passed, slots may have been edited, the rate table may have been
swept. -/
structure Arrival where
  settings : Settings
  meanwhile : Memory → Memory
  frame : Octets

/-- The shared maps of a machine and the counters of its cores. -/
structure Machine (n : ℕ) where
  shared : Memory
  counters : Fin n → Counters

namespace Machine

variable {n : ℕ}

/-- A machine whose cores have not counted anything yet. -/
def fresh (n : ℕ) (shared : Memory) : Machine n := ⟨shared, fun _ => Counters.zero⟩

/-- A core receives a frame. -/
def receive (m : Machine n) (core : Fin n) (a : Arrival) : Machine n :=
  let outcome := process a.settings a.frame (⟨a.meanwhile m.shared, m.counters, core⟩ : OnCore n)
  ⟨outcome.state.shared, outcome.state.counters⟩

/-- The cores receive frames, one after the other. -/
def run (m : Machine n) (arrivals : List (Fin n × Arrival)) : Machine n :=
  arrivals.foldl (fun m x => m.receive x.1 x.2) m

/-- The totals over all cores. -/
def harvest (m : Machine n) (takenAt : Instant) : Snapshot :=
  .ofCores takenAt (Vector.ofFn fun i => (List.ofFn m.counters).map (·.get i))

end Machine

/-! ### The course of a run -/

namespace Encounter

/-- What becomes of the frame. -/
def verdict (e : Encounter) : Verdict := (e.outcome Counters.zero).verdict

/-- The maps that the frame leaves behind. -/
def left (e : Encounter) : Memory :=
  (e.outcome Counters.zero).state.withCounters e.memory.counters

lemma sameUpTo_outcome (e : Encounter) (cs : Counters) :
    Outcome.SameUpTo (fun m m' : Memory => ∃ cs, m' = m.withCounters cs) (e.outcome Counters.zero)
      (e.outcome cs) :=
  process_sameUpTo Memory.answersAlike_withCounters (s := e.memory.withCounters Counters.zero)
    ⟨cs, rfl⟩ e.settings e.frame

lemma verdict_outcome (e : Encounter) (cs : Counters) : (e.outcome cs).verdict = e.verdict :=
  (e.sameUpTo_outcome cs).verdict.symm

lemma withCounters_outcome (e : Encounter) (cs : Counters) :
    (e.outcome cs).state.withCounters e.memory.counters = e.left := by
  obtain ⟨cs', hstate⟩ := (e.sameUpTo_outcome cs).state
  rw [hstate]
  rfl

end Encounter

/-- What the frames of a run meet, one after the other. -/
def encounters : Memory → List Arrival → List Encounter
  | _, [] => []
  | shared, a :: as =>
    let e : Encounter := ⟨a.settings, a.meanwhile shared, a.frame⟩
    e :: encounters e.left as

/-- How many packets, octets, signaling requests, drops, transmissions and passes for want of a
backend there are among frames. -/
def Encounter.number (es : List Encounter) : Counter → ℕ
  | .packets => es.length
  | .bytes => (es.map fun e => e.frame.length).sum
  | .signalingRequests => es.countP fun e => trafficClass? e.settings e.frame = some .signaling
  | .dropped => es.countP fun e => e.verdict = .drop
  | .transmitted => es.countP fun e => e.verdict = .transmit
  | .noBackend => es.countP fun e => isBalanced e.settings e.frame ∧ e.verdict = .pass

/-- What one core receives in a run. -/
def received {n : ℕ} (shared : Memory) (arrivals : List (Fin n × Arrival)) (core : Fin n) :
    List Encounter :=
  (((arrivals.map Prod.fst).zip (encounters shared (arrivals.map Prod.snd))).filter
    (·.1 = core)).map Prod.snd

lemma received_cons {n : ℕ} (shared : Memory) (k : Fin n) (a : Arrival)
    (arrivals : List (Fin n × Arrival)) (core : Fin n) :
    let e : Encounter := ⟨a.settings, a.meanwhile shared, a.frame⟩
    received shared ((k, a) :: arrivals) core =
      if k = core then e :: received e.left arrivals core else received e.left arrivals core := by
  intro e
  simp only [received, List.map_cons, encounters, List.zip_cons_cons, List.filter_cons,
    decide_eq_true_eq]
  split <;> rfl

section Number

variable (es : List Encounter) (c : Counter)

lemma verdicts_eq (cs : Counters) : verdicts cs es = es.map fun e => (e, e.verdict) := by
  induction es generalizing cs with
  | nil => rfl
  | cons e es ih => rw [verdicts, ih, List.map_cons, e.verdict_outcome]

lemma Encounter.number_eq_sum :
    number es c = (es.map fun e => share e.settings e.frame e.verdict c).sum := by
  cases c with
  | packets => simp [number, share]
  | bytes => rfl
  | signalingRequests => exact (sum_map_ite_eq_countP _ es).symm
  | dropped => exact (sum_map_ite_eq_countP _ es).symm
  | transmitted => exact (sum_map_ite_eq_countP _ es).symm
  | noBackend => exact (sum_map_ite_eq_countP _ es).symm

lemma sumShares_eq_number (cs : Counters) : sumShares cs es c = Encounter.number es c := by
  rw [sumShares, verdicts_eq, List.map_map, Encounter.number_eq_sum]
  rfl

/-- Each frame is received by one core. -/
lemma sum_number_filter {n : ℕ} (l : List (Fin n × Encounter)) :
    ∑ core, Encounter.number ((l.filter (·.1 = core)).map Prod.snd) c =
      Encounter.number (l.map Prod.snd) c := by
  simp only [Encounter.number_eq_sum]
  induction l with
  | nil => simp
  | cons x l ih =>
    have hsplit : ∀ core : Fin n,
        ((((x :: l).filter (·.1 = core)).map Prod.snd).map
          fun e => share e.settings e.frame e.verdict c).sum =
        (if x.1 = core then share x.2.settings x.2.frame x.2.verdict c else 0) +
          (((l.filter (·.1 = core)).map Prod.snd).map
            fun e => share e.settings e.frame e.verdict c).sum := by
      intro core
      by_cases hcore : x.1 = core
      · simp [hcore]
      · simp [hcore]
    simp only [hsplit, Finset.sum_add_distrib, ih, Finset.sum_ite_eq, Finset.mem_univ, if_true,
      List.map_cons, List.sum_cons]

end Number

lemma length_encounters (shared : Memory) (as : List Arrival) :
    (encounters shared as).length = as.length := by
  induction as generalizing shared with
  | nil => rfl
  | cons a as ih => rw [encounters, List.length_cons, List.length_cons, ih]

lemma sum_number_received {n : ℕ} (shared : Memory) (arrivals : List (Fin n × Arrival))
    (c : Counter) :
    ∑ core, Encounter.number (received shared arrivals core) c =
      Encounter.number (encounters shared (arrivals.map Prod.snd)) c := by
  have hlength : (encounters shared (arrivals.map Prod.snd)).length ≤
      (arrivals.map Prod.fst).length := by
    rw [length_encounters, List.length_map, List.length_map]
  simp only [received, sum_number_filter, List.map_snd_zip hlength]

/-! ### What the cores count -/

section Counts

variable {n : ℕ} (m : Machine n)

/-- A core that receives a frame counts what the frame adds, and the other cores count nothing. -/
lemma Machine.receive_eq (core : Fin n) (a : Arrival) :
    let e : Encounter := ⟨a.settings, a.meanwhile m.shared, a.frame⟩
    m.receive core a =
      ⟨e.left, Function.update m.counters core (e.outcome (m.counters core)).state.counters⟩ := by
  intro e
  have hstart : (⟨a.meanwhile m.shared, m.counters, core⟩ : OnCore n) =
      (e.memory.withCounters (m.counters core)).onCore e.memory.counters m.counters core := by
    simp only [Memory.onCore, Memory.withCounters, Function.update_eq_self]
    rfl
  have hstate := (process_sameUpTo (answersAlike_onCore e.memory.counters m.counters core) hstart
    a.settings a.frame).state
  rw [receive, hstate, ← e.withCounters_outcome (m.counters core)]
  rfl

/-- A run counts on each core what the core receives. -/
lemma Machine.counters_run (arrivals : List (Fin n × Arrival)) (core : Fin n) :
    (m.run arrivals).counters core =
      countersAfter (m.counters core) (received m.shared arrivals core) := by
  induction arrivals generalizing m with
  | nil => rfl
  | cons x arrivals ih =>
    obtain ⟨k, a⟩ := x
    have hrun : m.run ((k, a) :: arrivals) = (m.receive k a).run arrivals := rfl
    rw [hrun, ih, m.receive_eq, received_cons]
    dsimp only
    by_cases hcore : k = core
    · subst hcore
      rw [if_pos rfl, Function.update_self]
      rfl
    · rw [if_neg hcore, Function.update_of_ne (Ne.symm hcore)]

/-- As long as no counter of a core overflows, it is the number of what the core received. -/
lemma Machine.value_run_fresh {shared : Memory} {arrivals : List (Fin n × Arrival)} {core : Fin n}
    {c : Counter} (hfits : Encounter.number (received shared arrivals core) c < 2 ^ 64) :
    (Tally.value (((fresh n shared).run arrivals).counters core) c).toNat =
      Encounter.number (received shared arrivals core) c := by
  have hzero : Tally.value ((fresh n shared).counters core) c = 0 := by
    cases c <;> rfl
  rw [counters_run, value_countersAfter, hzero, UInt64.zero_add, sumShares_eq_number,
    UInt64.toNat_ofNat']
  exact Nat.mod_eq_of_lt hfits

end Counts

/-! ### Totals -/

/-- The sum over the cores is exact up to the size of its word. -/
lemma toNat_sumCounter (values : List UInt64) :
    (sumCounter values).toNat = (values.map UInt64.toNat).sum % 2 ^ 128 := by
  have hfrom : ∀ total : BitVec 128,
      (values.foldl (fun total v => total + BitVec.ofNat 128 v.toNat) total).toNat =
        (total.toNat + (values.map UInt64.toNat).sum) % 2 ^ 128 := by
    induction values with
    | nil => intro total; simp [Nat.mod_eq_of_lt total.isLt]
    | cons v values ih =>
      intro total
      rw [List.foldl_cons, ih, List.map_cons, List.sum_cons, BitVec.toNat_add, BitVec.toNat_ofNat]
      omega
  have hzero : (0 : BitVec 128).toNat = 0 := rfl
  rw [sumCounter, hfrom, hzero, Nat.zero_add]

lemma Machine.toNat_get_harvest {n : ℕ} (m : Machine n) (takenAt : Instant) (c : Counter) :
    ((m.harvest takenAt).get c).toNat =
      (∑ core : Fin n, (Tally.value (m.counters core) c).toNat) % 2 ^ 128 := by
  have hget : (m.harvest takenAt).get c = sumCounter ((List.ofFn m.counters).map (Tally.value · c)) := by
    simp only [harvest, Snapshot.get, Snapshot.ofCores, Tally.value, Fin.getElem_fin,
      Vector.getElem_map, Vector.getElem_ofFn]
    rfl
  rw [hget, toNat_sumCounter, List.map_map, List.map_ofFn, List.sum_ofFn]
  rfl

/-- **The totals over all cores are those of the run.**  Whatever has happened to the shared maps
between the frames, and whichever core received which frame: if no counter of a core overflows, then
each total is the number of the frames, octets or verdicts that it is named after, among all frames
of the run.  The sum itself cannot overflow for as many cores as the length of an array can tell. -/
theorem harvest_eq_number {n : ℕ} (shared : Memory) (arrivals : List (Fin n × Arrival))
    (hfits : ∀ core c, Encounter.number (received shared arrivals core) c < 2 ^ 64)
    (takenAt : Instant) (c : Counter) :
    let total := ((((Machine.fresh n shared).run arrivals).harvest takenAt).get c).toNat
    let number := Encounter.number (encounters shared (arrivals.map Prod.snd)) c
    total = number % 2 ^ 128 ∧ (n ≤ 2 ^ 64 → total = number) := by
  intro total number
  have hsum : ∑ core : Fin n,
      (Tally.value (((Machine.fresh n shared).run arrivals).counters core) c).toNat = number :=
    (Finset.sum_congr rfl fun core _ => Machine.value_run_fresh (hfits core c)).trans
      (sum_number_received shared arrivals c)
  have htotal : total = number % 2 ^ 128 := by
    rw [← hsum]
    exact Machine.toNat_get_harvest _ takenAt c
  refine ⟨htotal, fun hcores => ?_⟩
  have hle : number ≤ n * (2 ^ 64 - 1) := by
    have hbound := Finset.sum_le_card_nsmul Finset.univ
      (fun core : Fin n => Encounter.number (received shared arrivals core) c) (2 ^ 64 - 1)
      fun core _ => Nat.le_sub_one_of_lt (hfits core c)
    rwa [sum_number_received, Finset.card_univ, Fintype.card_fin, smul_eq_mul] at hbound
  have hlt : number < 2 ^ 128 := by
    calc number ≤ n * (2 ^ 64 - 1) := hle
      _ ≤ 2 ^ 64 * (2 ^ 64 - 1) := Nat.mul_le_mul_right _ hcores
      _ < 2 ^ 128 := by decide
  rw [htotal, Nat.mod_eq_of_lt hlt]

/-- Two cores receive three requests of one source, of which the limit admits two; the source has
been forgotten before the third. -/
theorem callRequests_on_twoCores :
    let settings : Settings := { rateLimit := 1 }
    let slots : SlotTable := SlotTable.empty.setIfInBounds 4 { address := 0x0a000004, flags := 1 }
    let arrivals : List (Fin 2 × Arrival) := [
      (0, ⟨settings, id, callDatagram⟩),
      (1, ⟨settings, fun m => { m with clock := 5 }, callSegment⟩),
      (0, ⟨settings, fun m => { m with rates := {} }, callDatagram⟩)]
    let shared : Memory := { slots := ⟨slots, SlotTable.empty⟩ }
    let totals := ((Machine.fresh 2 shared).run arrivals).harvest ⟨0, 0⟩
    (∀ core c, Encounter.number (received shared arrivals core) c < 2 ^ 64) ∧
      (totals.get .packets).toNat = 3 ∧ (totals.get .bytes).toNat = 142 ∧
      (totals.get .dropped).toNat = 1 ∧ (totals.get .transmitted).toNat = 2 := by
  intro settings slots arrivals shared totals
  have hfits : ∀ core c, Encounter.number (received shared arrivals core) c < 2 ^ 64 := by
    intro core c
    fin_cases core <;> cases c <;> decide
  have htotal : ∀ c, (totals.get c).toNat =
      Encounter.number (encounters shared (arrivals.map Prod.snd)) c := fun c =>
    (harvest_eq_number shared arrivals hfits ⟨0, 0⟩ c).2 (by decide)
  refine ⟨hfits, ?_, ?_, ?_, ?_⟩
  · rw [htotal]
    rfl
  · rw [htotal]
    rfl
  · rw [htotal]
    decide
  · rw [htotal]
    decide

end VoiceSteering
