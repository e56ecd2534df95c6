/-
# Admissions in an interval

A window may open at any time, so an interval of a window's length can reach into two windows.  It
never reaches into three: windows of one source open more than a window's length apart, also when
a sweep has removed the record in between, since it only takes records whose window is over.  Hence
in no interval of a window's length more than twice the limit is admitted.

The argument follows one source through a run of frames from all sources and of sweeps.
-/
import VoiceSteering.Proofs.Pipeline.InMemory

namespace VoiceSteering.Rate

open VoiceSteering.Frame (Access)

/-! ### Windows and an interval -/

/-- How many requests one window admits.  The request that opens it is always admitted. -/
def Limit.budget (limit : Limit) : ℕ := max limit.requests.toNat 1

/-- Counts a clock reading if it lies in the interval of a window's length from `start` on. -/
def Limit.tally (limit : Limit) (start now : ℕ) : ℕ :=
  if start ≤ now ∧ now ≤ start + limit.window.toNat then 1 else 0

/-- The last window of a source was opened at `opened` and has admitted `count` requests; of all
requests admitted so far, `inside` lie in the interval from `start` on. -/
structure Account (limit : Limit) (start opened count inside : ℕ) : Prop where
  count_le : count ≤ limit.budget
  /-- No window has reached the interval. -/
  early : opened + limit.window.toNat < start → inside = 0
  /-- Only the last window can have reached it. -/
  first : opened ≤ start → inside ≤ count
  /-- Only the last two windows can have reached it. -/
  second : opened ≤ start + limit.window.toNat → inside ≤ limit.budget + count
  inside_le : inside ≤ 2 * limit.budget

lemma Limit.one_le_budget (limit : Limit) : 1 ≤ limit.budget := Nat.le_max_right _ _

section Tally

variable {limit : Limit} {start now : ℕ}

lemma Limit.tally_le_one : limit.tally start now ≤ 1 := by
  rw [tally]
  split
  · exact Nat.le_refl 1
  · exact Nat.zero_le 1

lemma Limit.tally_of_early (hearly : now < start) : limit.tally start now = 0 :=
  if_neg fun hin => Nat.not_lt.2 hin.1 hearly

lemma Limit.tally_of_late (hlate : start + limit.window.toNat < now) :
    limit.tally start now = 0 :=
  if_neg fun hin => Nat.not_lt.2 hin.2 hlate

end Tally

namespace Account

variable {limit : Limit} {start opened count inside now : ℕ}

/-- A request within the window is counted. -/
lemma count_request (haccount : Account limit start opened count inside) (hopened : opened ≤ now)
    (hwithin : now ≤ opened + limit.window.toNat) (hcount : count < limit.budget) :
    Account limit start opened (count + 1) (inside + limit.tally start now) := by
  have htally : limit.tally start now ≤ 1 := Limit.tally_le_one
  refine ⟨hcount, fun hearly => ?_, fun hfirst => ?_, fun hsecond => ?_, ?_⟩
  · rw [haccount.early hearly, Limit.tally_of_early (Nat.lt_of_le_of_lt hwithin hearly)]
  · exact Nat.add_le_add (haccount.first hfirst) htally
  · have hinside := haccount.second hsecond
    omega
  · rcases Nat.lt_or_ge (start + limit.window.toNat) now with hlate | hin
    · rw [Limit.tally_of_late hlate]
      exact haccount.inside_le
    · have hinside := haccount.second (Nat.le_trans hopened hin)
      omega

/-- A later request opens the next window. -/
lemma reopen (haccount : Account limit start opened count inside)
    (hlater : opened + limit.window.toNat < now) :
    Account limit start now 1 (inside + limit.tally start now) := by
  have htally : limit.tally start now ≤ 1 := Limit.tally_le_one
  have hcount := haccount.count_le
  refine ⟨limit.one_le_budget, fun hearly => ?_, fun hfirst => ?_, fun hsecond => ?_, ?_⟩
  · rw [haccount.early (by omega), Limit.tally_of_early (by omega)]
  · -- the last window was over before the interval began
    rw [haccount.early (by omega)]
    omega
  · -- the last window opened before the interval began, and those before it were over by then
    have hinside := haccount.first (by omega)
    omega
  · rcases Nat.lt_or_ge (start + limit.window.toNat) now with hlate | hin
    · rw [Limit.tally_of_late hlate]
      exact haccount.inside_le
    · have hinside := haccount.first (by omega)
      have hbudget := limit.one_le_budget
      omega

/-- The first request of a source opens a window. -/
lemma open_first (limit : Limit) (start now : ℕ) :
    Account limit start now 1 (limit.tally start now) := by
  have htally : limit.tally start now ≤ 1 := Limit.tally_le_one
  have hbudget := limit.one_le_budget
  refine ⟨hbudget, fun hearly => Limit.tally_of_early (by omega), fun _ => htally, fun _ => ?_, ?_⟩
  · omega
  · omega

end Account

/-! ### The standing of a source -/

/-- What is known of a source by its record at a clock reading, `inside` of its admissions lying in
the interval from `start` on. -/
inductive Standing (limit : Limit) (start clock : ℕ) : Option Record → ℕ → Prop where
  /-- The source has never asked. -/
  | fresh : Standing limit start clock none 0
  | tracked {r : Record} {inside : ℕ} (hopened : r.windowStart.toNat ≤ clock)
      (haccount : Account limit start r.windowStart.toNat r.count.toNat inside) :
      Standing limit start clock (some r) inside
  /-- The record of the last window is gone, and so is the window. -/
  | swept {opened count inside : ℕ} (hover : opened + limit.window.toNat < clock)
      (haccount : Account limit start opened count inside) :
      Standing limit start clock none inside

namespace Standing

variable {limit : Limit} {start clock inside : ℕ} {record : Option Record} {now : UInt64}

lemma inside_le (h : Standing limit start clock record inside) : inside ≤ 2 * limit.budget := by
  cases h with
  | fresh => exact Nat.zero_le _
  | tracked hopened haccount => exact haccount.inside_le
  | swept hover haccount => exact haccount.inside_le

lemma mono (h : Standing limit start clock record inside) {later : ℕ} (hclock : clock ≤ later) :
    Standing limit start later record inside := by
  cases h with
  | fresh => exact .fresh
  | tracked hopened haccount => exact .tracked (Nat.le_trans hopened hclock) haccount
  | swept hover haccount => exact .swept (Nat.lt_of_lt_of_le hover hclock) haccount

/-- A request of the source. -/
lemma respond (h : Standing limit start clock record inside) (hclock : clock ≤ now.toNat) :
    Standing limit start now.toNat (Rate.respond limit now record).2
      (inside + if (Rate.respond limit now record).1 then limit.tally start now.toNat else 0) := by
  cases h with
  | fresh =>
    rw [Nat.zero_add]
    exact .tracked (Nat.le_refl _) (Account.open_first limit start now.toNat)
  | swept hover haccount =>
    exact .tracked (Nat.le_refl _) (haccount.reopen (Nat.lt_of_lt_of_le hover hclock))
  | @tracked r _ hopened haccount =>
    -- the request opens the next window or falls into the last one
    rcases Nat.lt_or_ge (r.windowStart.toNat + limit.window.toNat) now.toNat with hlater | hwithin
    · simp only [Rate.respond, Record.allow?_of_later hlater]
      exact .tracked (Nat.le_refl _) (haccount.reopen hlater)
    · by_cases hfull : limit.requests ≤ r.count
      · simp only [Rate.respond, Record.allow?_of_within hwithin, if_pos hfull]
        exact .tracked (Nat.le_trans hopened hclock) haccount
      · simp only [Rate.respond, Record.allow?_of_within hwithin, if_neg hfull]
        have hcount : r.count < limit.requests := UInt64.not_le.1 hfull
        refine .tracked (Nat.le_trans hopened hclock) ?_
        rw [Record.toNat_count_succ hcount]
        refine haccount.count_request (Nat.le_trans hopened hclock) hwithin ?_
        exact Nat.lt_of_lt_of_le (UInt64.lt_iff_toNat_lt.1 hcount) (Nat.le_max_left _ _)

/-- A sweep. -/
lemma sweep (h : Standing limit start clock record inside) (hclock : clock ≤ now.toNat)
    (idleWindows : UInt64) :
    Standing limit start now.toNat
      (record.filter fun r => !r.isExpired now limit.window idleWindows) inside := by
  cases h with
  | fresh => exact .fresh
  | swept hover haccount => exact .swept (Nat.lt_of_lt_of_le hover hclock) haccount
  | @tracked r _ hopened haccount =>
    rw [Option.filter_some]
    cases hexpired : r.isExpired now limit.window idleWindows with
    | true => exact .swept (Record.later_of_isExpired hexpired) haccount
    | false => exact .tracked (Nat.le_trans hopened hclock) haccount

end Standing

/-! ### Runs -/

/-- Something that happens to the rate table, at a reading of the clock. -/
inductive Step (φ : Type) where
  /-- A frame arrives, under any settings but for the rate limit. -/
  | frame (now : UInt64) (settings : Settings) (received : φ)
  /-- A sweep runs without interruption. -/
  | sweep (now idleWindows : UInt64)

variable {φ : Type}

/-- When a step happens. -/
def Step.now : Step φ → UInt64
  | frame now _ _ => now
  | sweep now _ => now

variable [Access φ]

/-- The settings with a given rate limit. -/
def Limit.apply (limit : Limit) (settings : Settings) : Settings :=
  { settings with rateLimit := limit.requests, rateWindow := limit.window }

/-- What becomes of a frame that arrives at a reading of the clock. -/
def Limit.receive (limit : Limit) (m : Memory) (now : UInt64) (settings : Settings) (frame : φ) :
    Outcome φ Memory :=
  process (limit.apply settings) frame { m with clock := now }

/-- The memory after a step. -/
def Step.run (limit : Limit) (m : Memory) : Step φ → Memory
  | frame now settings received => (limit.receive m now settings received).state
  | sweep now idleWindows => { m with rates := (m.rates.sweep now ⟨limit.window, idleWindows⟩).2 }

/-- Whether a step is the admission of a signaling frame of a source. -/
def Step.admits (limit : Limit) (source : Address) (m : Memory) : Step φ → Bool
  | frame now settings received =>
    limitedSource? (limit.apply settings) received = some source ∧
      (limit.receive m now settings received).verdict ≠ .drop
  | sweep _ _ => false

/-- The clock readings at which signaling frames of a source are admitted in a run. -/
def admissions (limit : Limit) (source : Address) : Memory → List (Step φ) → List ℕ
  | _, [] => []
  | m, step :: steps =>
    if step.admits limit source m then
      step.now.toNat :: admissions limit source (step.run limit m) steps
    else admissions limit source (step.run limit m) steps

/-! ### Single steps -/

section Receive

variable {limit : Limit} {m : Memory} {now : UInt64} {settings : Settings} {received : φ}

lemma receive_of_unlimited (hlimited : limitedSource? (limit.apply settings) received = none) :
    (limit.receive m now settings received).state.rates = m.rates :=
  (process_rates_of_unlimited hlimited).1

lemma receive_of_limited {source : Address}
    (hlimited : limitedSource? (limit.apply settings) received = some source) :
    (limit.receive m now settings received).state.rates = (allow m.rates source now limit).2 ∧
      ((limit.receive m now settings received).verdict = .drop ↔
        (allow m.rates source now limit).1 = false) :=
  process_rates_of_limited hlimited

lemma Step.admits_frame (source : Address)
    (hlimited : limitedSource? (limit.apply settings) received = some source) :
    (Step.frame now settings received).admits limit source m =
      (allow m.rates source now limit).1 := by
  rw [Bool.eq_iff_iff, Step.admits, decide_eq_true_iff, Ne,
    (receive_of_limited hlimited).2, Bool.not_eq_false]
  exact and_iff_right hlimited

/-- A frame that is not limited by a source leaves the record of that source alone. -/
lemma find?_receive_of_ne (source : Address)
    (hlimited : limitedSource? (limit.apply settings) received ≠ some source) :
    (limit.receive m now settings received).state.rates.records.find? source =
      m.rates.records.find? source :=
  find?_process_of_ne hlimited

end Receive

variable {limit : Limit} {source : Address} {m : Memory} {start clock inside : ℕ}

lemma Step.open_run (step : Step φ) (hm : m.rates.Open) : (step.run limit m).rates.Open := by
  cases step with
  | frame now settings received =>
    rw [run]
    cases hlimited : limitedSource? (limit.apply settings) received with
    | none =>
      rw [receive_of_unlimited hlimited]
      exact hm
    | some other =>
      rw [(receive_of_limited hlimited).1]
      exact hm.allow other
  | sweep now idleWindows => exact hm.sweep now ⟨limit.window, idleWindows⟩

/-- One step, whatever source it is about. -/
lemma Step.standing_run (step : Step φ) (hm : m.rates.Open)
    (h : Standing limit start clock (m.rates.records.find? source) inside)
    (hclock : clock ≤ step.now.toNat) :
    Standing limit start step.now.toNat ((step.run limit m).rates.records.find? source)
      (inside + if step.admits limit source m then limit.tally start step.now.toNat else 0) := by
  cases step with
  | frame now settings received =>
    by_cases hlimited : limitedSource? (limit.apply settings) received = some source
    · obtain ⟨hanswer, hrecord⟩ := hm.allow_eq source now limit
      rw [admits_frame source hlimited, run, (receive_of_limited hlimited).1, hanswer, hrecord]
      exact h.respond hclock
    · have hdenied : (frame now settings received).admits limit source m = false :=
        decide_eq_false fun hboth => hlimited hboth.1
      rw [hdenied, run, find?_receive_of_ne source hlimited]
      exact h.mono hclock
  | sweep now idleWindows =>
    rw [run, admits, hm.find?_sweep]
    exact h.sweep hclock idleWindows

/-! ### The bound -/

/-- How many clock readings of a list lie in the interval. -/
def Limit.tallyAll (limit : Limit) (start : ℕ) (readings : List ℕ) : ℕ :=
  readings.countP fun now => start ≤ now ∧ now ≤ start + limit.window.toNat

lemma admissions_cons (step : Step φ) (steps : List (Step φ)) :
    limit.tallyAll start (admissions limit source m (step :: steps)) =
      (if step.admits limit source m then limit.tally start step.now.toNat else 0) +
        limit.tallyAll start (admissions limit source (step.run limit m) steps) := by
  rw [admissions]
  split
  · rw [Limit.tallyAll, List.countP_cons, Nat.add_comm, Limit.tally, Limit.tallyAll]
    simp only [decide_eq_true_eq]
  · rw [Nat.zero_add]

lemma tallyAll_admissions (steps : List (Step φ)) (hm : m.rates.Open)
    (h : Standing limit start clock (m.rates.records.find? source) inside)
    (hclock : ∀ step ∈ steps, clock ≤ step.now.toNat)
    (hsorted : (steps.map Step.now).Pairwise (· ≤ ·)) :
    inside + limit.tallyAll start (admissions limit source m steps) ≤ 2 * limit.budget := by
  induction steps generalizing m clock inside with
  | nil => exact h.inside_le
  | cons step steps ih =>
    rw [List.map_cons, List.pairwise_cons] at hsorted
    have hlater : ∀ step' ∈ steps, step.now.toNat ≤ step'.now.toNat := fun step' hstep' =>
      UInt64.le_iff_toNat_le.1 (hsorted.1 _ (List.mem_map_of_mem hstep'))
    -- the admission at this step moves from the run that is left to what lies behind
    rw [admissions_cons, ← Nat.add_assoc]
    exact ih (step.open_run hm) (step.standing_run hm h (hclock step (List.mem_cons_self ..)))
      hlater hsorted.2

/-- **In no interval of a window's length more than twice the limit is admitted**, wherever the
interval lies, whatever arrives from whom, and whenever sweeps run. -/
theorem admissions_in_interval (limit : Limit) (source : Address) (m : Memory)
    (steps : List (Step φ)) (hsorted : (steps.map Step.now).Pairwise (· ≤ ·)) (start : ℕ) :
    ((admissions limit source { m with rates := {} } steps).countP fun now =>
        start ≤ now ∧ now ≤ start + limit.window.toNat) ≤ 2 * max limit.requests.toNat 1 := by
  have hopen : Table.Open {} := ⟨rfl, List.nodup_nil⟩
  have hfresh : Standing limit start 0 (Records.find? [] source) 0 := .fresh
  have hbound : 0 + limit.tallyAll start (admissions limit source { m with rates := {} } steps) ≤
      2 * limit.budget :=
    tallyAll_admissions steps hopen hfresh (fun step _ => Nat.zero_le _) hsorted
  rwa [Nat.zero_add] at hbound

/-- A signaling datagram of `203.0.113.5`. -/
def signalingDatagram : Frame.Octets :=
  [2, 0, 0, 0, 0, 0xbb, 2, 0, 0, 0, 0, 0xaa, 8, 0,
    0x45, 0, 0, 28, 0, 0, 0x40, 0, 64, 17, 0, 0, 203, 0, 113, 5, 198, 51, 100, 1,
    156, 64, 19, 196, 0, 8, 0, 0]

/-- Two requests per window of length ten.  A sweep removes the record of the first window before
the second one opens. -/
theorem signalingDatagram_admissions :
    let arrival (now : UInt64) : Step Frame.Octets := .frame now {} signalingDatagram
    let steps := [arrival 100, arrival 110, arrival 110, .sweep 111 0, arrival 111, arrival 112]
    let admitted := admissions ⟨2, 10⟩ 0xcb007105 { rates := {} } steps
    (steps.map Step.now).Pairwise (· ≤ ·) ∧ admitted = [100, 110, 111, 112] ∧
      (admitted.countP fun now => 102 ≤ now ∧ now ≤ 102 + 10) ≤ 4 := by
  intro arrival steps admitted
  have hsorted : (steps.map Step.now).Pairwise (· ≤ ·) := by decide
  exact ⟨hsorted, by decide, admissions_in_interval ⟨2, 10⟩ 0xcb007105 {} steps hsorted 102⟩

end VoiceSteering.Rate
