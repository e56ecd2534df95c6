/-
# Frames against maps in memory

Of the maps in memory a frame changes only the counters and, if it is signaling, the rate record of
its source.  Whether it is dropped is decided by the rate table alone.
-/
import Mathlib.Tactic.Common
import VoiceSteering.Proofs.Pipeline.Ending
import VoiceSteering.Proofs.Rate.Window

namespace VoiceSteering

open VoiceSteering.Frame (Access Header)

/-! ### Counters -/

lemma Counters.value_add (cs : Counters) (c d : Counter) (n : UInt64) :
    Tally.value (cs.add c n) d = Tally.value cs d + if d = c then n else 0 := by
  have hindex : c.index = d.index ↔ d = c := by cases c <;> cases d <;> decide
  rcases eq_or_ne d c with rfl | hne
  · simp [Tally.value, Counters.add]
  · have hval : (c.index : ℕ) ≠ d.index := fun h => hne (hindex.1 (Fin.ext h))
    simp [Tally.value, Counters.add, hval, hne]

/-! ### What a frame leaves alone -/

/-- The source that a frame's rate is limited by; nothing unless it is signaling. -/
def limitedSource? {φ : Type} [Access φ] (settings : Settings) (frame : φ) : Option Address :=
  (Header.read? frame).bind fun h =>
    if classify h settings = .signaling then some h.source else none

/-- The rate table in memory decides by itself. -/
lemma Memory.allow_eq (m : Memory) (source : Address) (now : UInt64) (limit : Rate.Limit) :
    Rate.allow m source now limit = ((Rate.allow m.rates source now limit).1,
      { m with rates := (Rate.allow m.rates source now limit).2 }) := by
  cases hrecord : m.rates.records.find? source with
  | none => simp only [Rate.allow, Rate.Store.lookup, Rate.Store.insert, hrecord]
  | some r =>
    cases hnext : r.allow? limit now with
    | none => simp only [Rate.allow, Rate.Store.lookup, hrecord, hnext]
    | some r' => simp only [Rate.allow, Rate.Store.lookup, Rate.Store.update, hrecord, hnext]

/-- A memory that differs from another one at most in its counters, other than that of frames
without a backend, and in its rate table. -/
structure Memory.Follows (m s : Memory) : Prop where
  slots_eq : s.slots = m.slots
  maglev_eq : s.maglev = m.maglev
  noBackend_eq : Tally.value s.counters .noBackend = Tally.value m.counters .noBackend

lemma Memory.counted_eq {φ : Type} [Access φ] (frame : φ) (m : Memory) :
    counted frame m = { m with
      counters := (m.counters.add .packets 1).add .bytes (UInt64.ofNat (Access.length frame)) } :=
  rfl

lemma Memory.admission_eq (settings : Settings) (source : Address) (m : Memory) :
    admission settings source m =
      ((Rate.allow m.rates source m.clock settings.limit).1,
        { m with
          counters := m.counters.add .signalingRequests 1
          rates := (Rate.allow m.rates source m.clock settings.limit).2 }) :=
  Memory.allow_eq { m with counters := m.counters.add .signalingRequests 1 } source m.clock
    settings.limit

lemma Handed.follows {φ : Type} [Access φ] {settings : Settings} {frame : φ} {h : Header}
    {pool : Pool} {m s : Memory} (hhanded : Handed settings h (counted frame m) pool s) :
    m.Follows s := by
  cases hhanded with
  | signaling hclass hadmitted =>
    rw [Memory.admission_eq] at hadmitted
    obtain rfl := (Prod.mk.inj hadmitted).2
    exact ⟨rfl, rfl, by simp [Memory.counted_eq, Counters.value_add]⟩
  | api hclass => exact ⟨rfl, rfl, by simp [Memory.counted_eq, Counters.value_add]⟩

/-- A backend is selected from the slots and the look-up tables alone. -/
lemma Memory.selectBackend_congr {m s : Memory} (hslots : s.slots = m.slots)
    (hmaglev : s.maglev = m.maglev) (settings : Settings) (pool : Pool) (h : Header) :
    selectBackend settings pool h s = selectBackend settings pool h m := by
  simp only [selectBackend, selectSlot, Datapath.maglevEntry, Datapath.backend, hslots, hmaglev]

lemma Memory.Follows.selectBackend_eq {m s : Memory} (hfollows : m.Follows s)
    (settings : Settings) (pool : Pool) (h : Header) :
    selectBackend settings pool h s = selectBackend settings pool h m :=
  Memory.selectBackend_congr hfollows.slots_eq hfollows.maglev_eq settings pool h

lemma limitedSource?_eq {φ : Type} [Access φ] {settings : Settings} {frame : φ} {h : Header}
    (hread : Header.read? frame = some h) :
    limitedSource? settings frame =
      if classify h settings = .signaling then some h.source else none := by
  rw [limitedSource?, hread, Option.bind_some]

lemma limitedSource?_eq_some_iff {φ : Type} [Access φ] {settings : Settings} {frame : φ}
    {source : Address} :
    limitedSource? settings frame = some source ↔
      ∃ h, Header.read? frame = some h ∧ classify h settings = .signaling ∧ h.source = source := by
  simp only [limitedSource?, Option.bind_eq_some_iff, Option.ite_none_right_eq_some,
    Option.some_inj]

/-- Whoever is handed to a pool was admitted, or is not limited. -/
lemma Handed.rates_eq {φ : Type} [Access φ] {settings : Settings} {frame : φ} {h : Header}
    {pool : Pool} {m s : Memory} (hread : Header.read? frame = some h)
    (hhanded : Handed settings h (counted frame m) pool s) :
    (limitedSource? settings frame = some h.source ∧
        Rate.allow m.rates h.source m.clock settings.limit = (true, s.rates)) ∨
      (limitedSource? settings frame = none ∧ s.rates = m.rates) := by
  rw [limitedSource?_eq hread]
  cases hhanded with
  | signaling hclass hadmitted =>
    rw [Memory.admission_eq] at hadmitted
    obtain ⟨hallow, rfl⟩ := Prod.mk.inj hadmitted
    exact .inl ⟨if_pos hclass, Prod.ext hallow rfl⟩
  | api hclass => exact .inr ⟨if_neg (by rw [hclass]; decide), rfl⟩

/-- **The rate table decides which frames are dropped**, and no other frame changes it. -/
theorem process_rates {φ : Type} [Access φ] (settings : Settings) (frame : φ) (m : Memory) :
    match limitedSource? settings frame with
    | some source =>
      (process settings frame m).state.rates =
          (Rate.allow m.rates source m.clock settings.limit).2 ∧
        ((process settings frame m).verdict = .drop ↔
          (Rate.allow m.rates source m.clock settings.limit).1 = false)
    | none =>
      (process settings frame m).state.rates = m.rates ∧
        (process settings frame m).verdict ≠ .drop := by
  have hending := process_ending settings frame m
  generalize process settings frame m = outcome at hending
  cases hending with
  | unread hread =>
    rw [limitedSource?, hread]
    exact ⟨rfl, by simp⟩
  | unbalanced hread hclass =>
    have hlimited : limitedSource? settings frame = none := by
      rw [limitedSource?_eq hread, if_neg]
      intro hsignaling
      rw [hsignaling] at hclass
      exact absurd hclass (by decide)
    rw [hlimited]
    exact ⟨rfl, by simp⟩
  | denied hread hclass hdenied =>
    rw [limitedSource?_eq hread, if_pos hclass]
    rw [Memory.admission_eq] at hdenied
    obtain ⟨hdeny, rfl⟩ := Prod.mk.inj hdenied
    exact ⟨rfl, fun _ => hdeny, fun _ => rfl⟩
  | noBackend hread hhanded | redirected hread hhanded | abandoned hread hhanded =>
    rcases hhanded.rates_eq hread with ⟨hlimited, hallow⟩ | ⟨hlimited, hrates⟩
    · rw [hlimited]
      exact ⟨(congrArg Prod.snd hallow).symm, by simp [hallow]⟩
    · rw [hlimited]
      exact ⟨hrates, by simp⟩

section Rates

variable {φ : Type} [Access φ] {settings : Settings} {frame : φ} {m : Memory} {source : Address}

lemma process_rates_of_unlimited (hlimited : limitedSource? settings frame = none) :
    (process settings frame m).state.rates = m.rates ∧
      (process settings frame m).verdict ≠ .drop := by
  have hrates := process_rates settings frame m
  rw [hlimited] at hrates
  exact hrates

lemma process_rates_of_limited (hlimited : limitedSource? settings frame = some source) :
    (process settings frame m).state.rates =
        (Rate.allow m.rates source m.clock settings.limit).2 ∧
      ((process settings frame m).verdict = .drop ↔
        (Rate.allow m.rates source m.clock settings.limit).1 = false) := by
  have hrates := process_rates settings frame m
  rw [hlimited] at hrates
  exact hrates

/-- A frame that is not limited by a source leaves the record of that source alone. -/
lemma find?_process_of_ne (hlimited : limitedSource? settings frame ≠ some source) :
    (process settings frame m).state.rates.records.find? source =
      m.rates.records.find? source := by
  cases hother : limitedSource? settings frame with
  | none => rw [(process_rates_of_unlimited hother).1]
  | some other =>
    rw [(process_rates_of_limited hother).1]
    refine Rate.find?_allow_of_ne m.rates fun hsource => hlimited ?_
    rw [hother, hsource]

end Rates

/-- **Which frames are dropped.** -/
theorem process_verdict_eq_drop_iff {φ : Type} [Access φ] (settings : Settings) (frame : φ)
    (m : Memory) :
    (process settings frame m).verdict = .drop ↔
      ∃ h r, Header.read? frame = some h ∧ classify h settings = .signaling ∧
        m.rates.records.find? h.source = some r ∧
        m.clock.toNat ≤ r.windowStart.toNat + settings.rateWindow.toNat ∧
        settings.rateLimit ≤ r.count := by
  constructor
  · intro hdrop
    cases hlimited : limitedSource? settings frame with
    | none => exact absurd hdrop (process_rates_of_unlimited hlimited).2
    | some source =>
      have hdenied := (process_rates_of_limited hlimited).2.1 hdrop
      obtain ⟨r, hr⟩ := Rate.allow_eq_false_iff.1 hdenied
      obtain ⟨h, hread, hclass, rfl⟩ := limitedSource?_eq_some_iff.1 hlimited
      exact ⟨h, r, hread, hclass, hr⟩
  · rintro ⟨h, r, hread, hclass, hr⟩
    have hlimited := limitedSource?_eq_some_iff.2 ⟨h, hread, hclass, rfl⟩
    exact (process_rates_of_limited hlimited).2.2 (Rate.allow_eq_false_iff.2 ⟨r, hr⟩)

end VoiceSteering
