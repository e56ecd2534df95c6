/-
# The requests of one source

The requests of a source fall into windows: the first one opens a window, and the first one after
the end of that window opens the next.  In every window as many requests are admitted as the budget
allows, the first ones, and the record counts them.  Nothing more is in the record, so the clock may
go back and forth within a window, and a denied request leaves no trace.

The argument needs no particular store, only a `LawfulStore`.
-/
import Mathlib.Data.List.Chain
import Mathlib.Data.List.TakeWhile
import VoiceSteering.Proofs.Rate.Interval

namespace VoiceSteering.Rate

/-! ### Windows -/

/-- Whether a clock reading lies in the window that opened at another one. -/
def Limit.isWithin (limit : Limit) (opening now : UInt64) : Bool :=
  now.toNat ≤ opening.toNat + limit.window.toNat

/-- The requests of a window, by their clock readings. -/
structure Window where
  opening : UInt64
  /-- The requests after the one that opens the window. -/
  later : List UInt64
deriving DecidableEq, Repr

/-- The clock readings of a window. -/
def Window.readings (w : Window) : List UInt64 := w.opening :: w.later

/-- The windows of a run: the first request opens one, and the first request after its end opens the
next. -/
def Limit.windows (limit : Limit) : List UInt64 → List Window
  | [] => []
  | opening :: readings =>
    ⟨opening, readings.takeWhile (limit.isWithin opening)⟩ ::
      windows limit (readings.dropWhile (limit.isWithin opening))
termination_by readings => readings.length
decreasing_by exact Nat.lt_succ_of_le (List.dropWhile_sublist _).length_le

/-- The record after a number of requests in a window. -/
def Limit.counted (limit : Limit) (opening : UInt64) (n : ℕ) : Record :=
  ⟨UInt64.ofNat (min n limit.budget), opening⟩

/-- The answers in a window, each with the record after it: the budget is used up from the front. -/
def Window.answers (limit : Limit) (w : Window) : List (Bool × Option Record) :=
  (List.range w.readings.length).map fun i =>
    (decide (i < limit.budget), some (limit.counted w.opening (i + 1)))

/-- The answers to a source that asks at some clock readings, each with its record afterwards. -/
def requests {τ : Type} [Store τ] (limit : Limit) (source : Address) :
    τ → List UInt64 → List (Bool × Option Record)
  | _, [] => []
  | store, now :: readings =>
    let answer := allow store source now limit
    (answer.1, (Store.lookup answer.2 source).1) :: requests limit source answer.2 readings

/-- The same for a record that is kept by itself. -/
def responses (limit : Limit) : Option Record → List UInt64 → List (Bool × Option Record)
  | _, [] => []
  | record, now :: readings =>
    respond limit now record :: responses limit (respond limit now record).2 readings

section Windows

variable {limit : Limit} {opening now : UInt64}

lemma Limit.isWithin_iff :
    limit.isWithin opening now = true ↔ now.toNat ≤ opening.toNat + limit.window.toNat :=
  decide_eq_true_iff

lemma Limit.windows_cons (opening : UInt64) (readings : List UInt64) :
    limit.windows (opening :: readings) =
      ⟨opening, readings.takeWhile (limit.isWithin opening)⟩ ::
        limit.windows (readings.dropWhile (limit.isWithin opening)) := by
  rw [windows]

/-- The request after a window is later than its end. -/
lemma Limit.lt_of_mem_head?_dropWhile {readings : List UInt64}
    (hnow : now ∈ (readings.dropWhile (limit.isWithin opening)).head?) :
    opening.toNat + limit.window.toNat < now.toNat := by
  have hafter := List.head?_dropWhile_not (limit.isWithin opening) readings
  rw [Option.mem_def.1 hnow] at hafter
  exact Nat.lt_of_not_le fun hle => by simp [isWithin_iff.2 hle] at hafter

/-! ### One window -/

lemma Limit.toNat_count_counted (limit : Limit) (opening : UInt64) (n : ℕ) :
    (limit.counted opening n).count.toNat = min n limit.budget := by
  have hlimit := limit.requests.toNat_lt
  refine UInt64.toNat_ofNat_of_lt' ?_
  rw [UInt64.size, budget]
  omega

/-- A request within a window is counted as long as the budget lasts. -/
lemma respond_counted {n : ℕ} (hpos : 0 < n)
    (hwithin : limit.isWithin opening now = true) :
    respond limit now (some (limit.counted opening n)) =
      (decide (n < limit.budget), some (limit.counted opening (n + 1))) := by
  have hcount := limit.toNat_count_counted opening n
  have hnext := limit.toNat_count_counted opening (n + 1)
  have hbudget : limit.budget = max limit.requests.toNat 1 := rfl
  rw [respond, Record.allow?_of_within (Limit.isWithin_iff.1 hwithin)]
  by_cases hfull : limit.requests ≤ (limit.counted opening n).count
  · have hspent : limit.budget ≤ n := by
      rw [UInt64.le_iff_toNat_le, hcount] at hfull
      omega
    have hsame : limit.counted opening (n + 1) = limit.counted opening n := by
      rw [Limit.counted, Limit.counted, Nat.min_eq_right hspent,
        Nat.min_eq_right (Nat.le_succ_of_le hspent)]
    rw [if_pos hfull, decide_eq_false (Nat.not_lt.2 hspent), hsame]
  · have hlt : (limit.counted opening n).count < limit.requests := UInt64.not_le.1 hfull
    have hleft : n < limit.budget := by
      rw [UInt64.lt_iff_toNat_lt, hcount] at hlt
      omega
    have hcounted : (limit.counted opening n).count + 1 =
        (limit.counted opening (n + 1)).count := by
      apply UInt64.toNat_inj.1
      rw [Record.toNat_count_succ hlt, hcount, hnext]
      omega
    rw [if_neg hfull, decide_eq_true hleft, hcounted]
    rfl

/-- The first request of a window. -/
lemma respond_none (limit : Limit) (opening : UInt64) :
    respond limit opening none =
      (decide (0 < limit.budget), some (limit.counted opening (0 + 1))) := by
  have hbudget := limit.one_le_budget
  rw [respond, decide_eq_true (Nat.lt_of_lt_of_le Nat.one_pos hbudget), Limit.counted,
    Nat.zero_add, Nat.min_eq_left hbudget]
  rfl

/-- A request after the window finds its record spent, and opens the next one. -/
lemma responses_of_over {r : Record} {readings : List UInt64}
    (hover : ∀ now ∈ readings.head?, r.windowStart.toNat + limit.window.toNat < now.toNat) :
    responses limit (some r) readings = responses limit none readings := by
  cases readings with
  | nil => rfl
  | cons now readings =>
    have hsame : respond limit now (some r) = respond limit now none := by
      simp only [respond, Record.allow?_of_later (hover now rfl)]
    rw [responses, responses, hsame]

/-- The requests that follow within a window. -/
lemma responses_append {within : List UInt64} (hwithin : ∀ now ∈ within, limit.isWithin opening now)
    (readings : List UInt64) {n : ℕ} (hpos : 0 < n) :
    responses limit (some (limit.counted opening n)) (within ++ readings) =
      ((List.range within.length).map fun i => (decide (n + i < limit.budget),
        some (limit.counted opening (n + i + 1)))) ++
        responses limit (some (limit.counted opening (n + within.length))) readings := by
  induction within generalizing n with
  | nil => rfl
  | cons now within ih =>
    have hnow := respond_counted hpos (hwithin now (List.mem_cons_self ..))
    rw [List.cons_append, responses, hnow,
      ih (fun now' hnow' => hwithin now' (List.mem_cons_of_mem now hnow')) (Nat.succ_pos n),
      List.length_cons, List.range_succ_eq_map, List.map_cons, List.map_map, List.cons_append]
    have hshift : ∀ i, n + 1 + i = n + (i + 1) := fun i => by omega
    simp only [hshift, Nat.add_zero]
    rfl

/-! ### All windows -/

/-- A window is over before the next request is looked at. -/
lemma responses_window {within after : List UInt64}
    (hwithin : ∀ now ∈ within, limit.isWithin opening now)
    (hover : ∀ now ∈ after.head?, opening.toNat + limit.window.toNat < now.toNat) :
    responses limit none (opening :: (within ++ after)) =
      Window.answers limit ⟨opening, within⟩ ++ responses limit none after := by
  have hlater := responses_append hwithin after Nat.one_pos
  rw [responses_of_over (r := limit.counted opening (1 + within.length)) hover] at hlater
  have hshift : ∀ i, 1 + i = i + 1 := fun i => Nat.add_comm 1 i
  rw [responses, respond_none, hlater, Window.answers, Window.readings, List.length_cons,
    List.range_succ_eq_map, List.map_cons, List.map_map, List.cons_append]
  simp only [hshift]
  rfl

/-- The requests of a source, window by window. -/
lemma responses_none (limit : Limit) (readings : List UInt64) :
    responses limit none readings = (limit.windows readings).flatMap (Window.answers limit) := by
  induction readings using Limit.windows.induct limit with
  | case1 => rw [Limit.windows, List.flatMap_nil, responses]
  | case2 opening readings ih =>
    have hwithin : ∀ now ∈ readings.takeWhile (limit.isWithin opening),
        limit.isWithin opening now = true := fun now hnow => List.mem_takeWhile_imp hnow
    have hover : ∀ now ∈ (readings.dropWhile (limit.isWithin opening)).head?,
        opening.toNat + limit.window.toNat < now.toNat :=
      fun now hnow => Limit.lt_of_mem_head?_dropWhile hnow
    have hwindow := responses_window hwithin hover
    rw [List.takeWhile_append_dropWhile] at hwindow
    rw [hwindow, Limit.windows_cons, List.flatMap_cons, ih]

/-- No request is lost or moved between the windows. -/
lemma Limit.flatMap_windows (limit : Limit) (readings : List UInt64) :
    (limit.windows readings).flatMap Window.readings = readings := by
  induction readings using windows.induct limit with
  | case1 => rw [windows, List.flatMap_nil]
  | case2 opening readings ih =>
    rw [windows_cons, List.flatMap_cons, ih, Window.readings, List.cons_append,
      List.takeWhile_append_dropWhile]

/-- Every window holds what comes before its end. -/
lemma Limit.le_of_mem_windows {readings : List UInt64} {w : Window}
    (hw : w ∈ limit.windows readings) :
    ∀ now ∈ w.later, now.toNat ≤ w.opening.toNat + limit.window.toNat := by
  induction readings using windows.induct limit with
  | case1 => simp [windows] at hw
  | case2 opening readings ih =>
    rw [windows_cons, List.mem_cons] at hw
    rcases hw with rfl | hw
    · intro now hnow
      exact isWithin_iff.1 (List.mem_takeWhile_imp hnow)
    · exact ih hw

/-- A window opens after the end of the one before. -/
lemma Limit.isChain_windows (limit : Limit) (readings : List UInt64) :
    (limit.windows readings).IsChain
      fun w next => w.opening.toNat + limit.window.toNat < next.opening.toNat := by
  induction readings using windows.induct limit with
  | case1 => simp [windows]
  | case2 opening readings ih =>
    rw [windows_cons, List.isChain_cons]
    refine ⟨fun next hnext => ?_, ih⟩
    cases hafter : readings.dropWhile (limit.isWithin opening) with
    | nil => simp [hafter, windows] at hnext
    | cons now after =>
      have hnow : now ∈ (readings.dropWhile (limit.isWithin opening)).head? := by rw [hafter]; rfl
      rw [hafter, windows_cons, List.head?_cons, Option.mem_some] at hnext
      rw [← hnext]
      exact lt_of_mem_head?_dropWhile hnow

end Windows

/-! ### Any store -/

/-- Whatever the store, the answers follow the record. -/
lemma requests_eq_responses {τ : Type} [Store τ] [LawfulStore τ] (limit : Limit)
    (source : Address) (store : τ) (readings : List UInt64)
    (htaken : (Store.lookup store source).1 = none → ∀ opening ∈ readings.head?,
      (Store.insert (Store.lookup store source).2 source (.opened opening)).1 = true) :
    requests limit source store readings =
      responses limit (Store.lookup store source).1 readings := by
  induction readings generalizing store with
  | nil => rfl
  | cons now readings ih =>
    obtain ⟨hanswer, hrecord⟩ := allow_eq_respond limit source store now
      fun hnew => htaken hnew now rfl
    have hfound := respond_isSome limit now (Store.lookup store source).1
    have hnext := ih (allow store source now limit).2
      fun hnew => by simp [← hrecord, hnew] at hfound
    rw [requests, responses, hanswer, hrecord, hnext, hrecord]

/-! ### The law of windows -/

/-- **The requests of a source are admitted window by window, the first ones of each up to the
budget**, whatever the clock does.  The record counts them and does not wrap, and the windows open
more than a window's length apart. -/
theorem requests_eq_windows {τ : Type} [Store τ] [LawfulStore τ] (limit : Limit)
    (source : Address) (store : τ) (readings : List UInt64)
    (hnew : (Store.lookup store source).1 = none)
    (htaken : ∀ opening ∈ readings.head?,
      (Store.insert (Store.lookup store source).2 source (.opened opening)).1 = true) :
    (limit.windows readings).flatMap Window.readings = readings ∧
      (∀ w ∈ limit.windows readings, ∀ now ∈ w.later,
        now.toNat ≤ w.opening.toNat + limit.window.toNat) ∧
      (limit.windows readings).IsChain
        (fun w next => w.opening.toNat + limit.window.toNat < next.opening.toNat) ∧
      requests limit source store readings =
        (limit.windows readings).flatMap (Window.answers limit) ∧
      (∀ opening n, (limit.counted opening n).count.toNat =
        min n (max limit.requests.toNat 1)) ∧
      ∀ (r r' : Record) (now : UInt64), r.allow? limit now = some r' → r' = .opened now ∨
        r' = { r with count := r.count + 1 } ∧ r'.count.toNat = r.count.toNat + 1 := by
  refine ⟨limit.flatMap_windows readings, fun w hw => limit.le_of_mem_windows hw,
    limit.isChain_windows readings, ?_, limit.toNat_count_counted, ?_⟩
  · rw [requests_eq_responses limit source store readings fun _ => htaken, hnew,
      responses_none]
  · intro r r' now hnext
    rcases Record.allow?_cases hnext with hopened | ⟨hcount, rfl⟩
    · exact .inl hopened
    · exact .inr ⟨rfl, Record.toNat_count_succ hcount⟩

/-- Two requests per window of length ten, on a table with room for one source.  The clock goes back
within a window, and the last moment of a window still belongs to it. -/
theorem wanderingClock_requests :
    let t : Table := { capacity := some 1 }
    let readings : List UInt64 := [100, 90, 110, 111, 5, 121, 122]
    (Store.lookup t 7).1 = none ∧
      (∀ opening ∈ readings.head?, (Store.insert t 7 (.opened opening)).1 = true) ∧
      requests ⟨2, 10⟩ 7 t readings = [(true, some ⟨1, 100⟩), (true, some ⟨2, 100⟩),
        (false, some ⟨2, 100⟩), (true, some ⟨1, 111⟩), (true, some ⟨2, 111⟩),
        (false, some ⟨2, 111⟩), (true, some ⟨1, 122⟩)] ∧
      requests ⟨2, 10⟩ 7 t readings =
        (Limit.windows ⟨2, 10⟩ readings).flatMap (Window.answers ⟨2, 10⟩) := by
  intro t readings
  have hnew : (Store.lookup t 7).1 = none := rfl
  have htaken : ∀ opening ∈ readings.head?, (Store.insert t 7 (.opened opening)).1 = true :=
    fun _ _ => rfl
  obtain ⟨-, -, -, hanswers, -⟩ := requests_eq_windows ⟨2, 10⟩ 7 t readings hnew htaken
  exact ⟨hnew, htaken, by decide, hanswers⟩

end VoiceSteering.Rate
