/-
# Sources in a bounded table

A table with a bound on its records takes sources in until it is full, and evicts nobody.  So every
source is either tracked or not from its first request on.  Of a tracked source the frames are
dropped that would be dropped if it were the only source and the table had no bound; of any other
source nothing is dropped at all, however much it sends.  There are at most as many tracked sources
as the table has room for.

Which sources are tracked depends on the whole run, but can be told from the table that it leaves:
the sources in a table only become more, and in a full one they stay the same.  It cannot be told
from the drops: a source that stays within its limit loses nothing, whether it is tracked or not.
-/
import Mathlib.Data.Set.Card
import Mathlib.Logic.Basic
import VoiceSteering.Proofs.Pipeline.InMemory

namespace VoiceSteering.Rate

open VoiceSteering.Frame (Access Header)

/-! ### The sources in a table -/

namespace Table

/-- The sources that have a record. -/
def sources (t : Table) : List Address := t.records.map Prod.fst

lemma isSome_find?_iff {t : Table} {source : Address} :
    (t.records.find? source).isSome = true ↔ source ∈ t.sources := by
  rw [← not_iff_not, Option.not_isSome_iff_eq_none, Records.find?_eq_none_iff, sources]

lemma length_sources (t : Table) : t.sources.length = t.records.length := List.length_map _

/-- How a table looks later on if nothing but requests reached it. -/
structure Extends (t t' : Table) : Prop where
  capacity_eq : t'.capacity = t.capacity
  sources_subset : t.sources ⊆ t'.sources
  /-- A full table takes nobody in. -/
  full : t.isFull = true → t'.sources = t.sources
  length_le : ∀ c, t.capacity = some c → t.records.length ≤ c → t'.records.length ≤ c

namespace Extends

variable {t t' t'' : Table}

lemma refl (t : Table) : t.Extends t := ⟨rfl, List.Subset.refl _, fun _ => rfl, fun _ _ h => h⟩

lemma isFull (h : t.Extends t') (hfull : t.isFull = true) : t'.isFull = true := by
  have hlength : t'.records.length = t.records.length := by
    rw [← length_sources, h.full hfull, length_sources]
  rw [Table.isFull, h.capacity_eq, hlength]
  exact hfull

lemma trans (h : t.Extends t') (h' : t'.Extends t'') : t.Extends t'' where
  capacity_eq := h'.capacity_eq.trans h.capacity_eq
  sources_subset := List.Subset.trans h.sources_subset h'.sources_subset
  full hfull := (h'.full (h.isFull hfull)).trans (h.full hfull)
  length_le c hcapacity hlength :=
    h'.length_le c (h.capacity_eq.trans hcapacity) (h.length_le c hcapacity hlength)

/-- Records written over leave the sources as they are. -/
lemma of_sources_eq (hcapacity : t'.capacity = t.capacity) (hsources : t'.sources = t.sources) :
    t.Extends t' where
  capacity_eq := hcapacity
  sources_subset := by rw [hsources]; exact List.Subset.refl _
  full _ := hsources
  length_le c _ hlength := by
    rw [← length_sources, hsources, length_sources]
    exact hlength

end Extends

/-- A request writes over a record, or adds one where there is room. -/
lemma extends_allow (t : Table) (source : Address) (now : UInt64) (limit : Limit) :
    t.Extends (allow t source now limit).2 := by
  cases hfind : t.records.find? source with
  | some r =>
    cases hnext : r.allow? limit now with
    | none => simpa only [allow, Store.lookup, hfind, hnext] using .refl t
    | some r' =>
      simp only [allow, Store.lookup, Store.update, hfind, hnext]
      exact .of_sources_eq rfl (Records.map_fst_replace _ _ _)
  | none =>
    simp only [allow, Store.lookup, Store.insert, hfind, insert]
    split
    · exact .refl t
    · next hroom =>
      -- the new record comes last
      have hput : t.records.put source (.opened now) = t.records ++ [(source, .opened now)] := by
        rw [Records.put, hfind]
        rfl
      refine ⟨rfl, ?_, fun hfull => absurd hfull hroom, ?_⟩
      · rw [sources, sources, hput, List.map_append]
        exact List.subset_append_left _ _
      · intro c hcapacity _
        have hlength : t.records.length < c := by
          simpa [isFull, hcapacity] using hroom
        rw [hput, List.length_append]
        exact hlength

end Table

/-! ### Runs -/

/-- A frame that arrives at a reading of the clock. -/
structure Arrival (φ : Type) where
  now : UInt64
  frame : φ

section Definitions

variable {φ : Type} [Access φ] (settings : Settings) (source : Address)

namespace Arrival

/-- Whether the frame is a signaling frame of a source. -/
def isFrom (a : Arrival φ) : Bool := limitedSource? settings a.frame = some source

/-- What becomes of the frame. -/
def outcome (m : Memory) (a : Arrival φ) : Outcome φ Memory :=
  process settings a.frame { m with clock := a.now }

end Arrival

/-- The memory after a run. -/
def afterAll (m : Memory) (arrivals : List (Arrival φ)) : Memory :=
  arrivals.foldl (fun m a => (a.outcome settings m).state) m

/-- Which of the signaling frames of a source are dropped in a run. -/
def drops : Memory → List (Arrival φ) → List Bool
  | _, [] => []
  | m, a :: arrivals =>
    let outcome := a.outcome settings m
    if a.isFrom settings source then
      decide (outcome.verdict = .drop) :: drops outcome.state arrivals
    else drops outcome.state arrivals

/-- Which of them are dropped if they are the whole run, and the rate table has no bound. -/
def dropsAlone (m : Memory) (arrivals : List (Arrival φ)) : List Bool :=
  drops settings source { m with rates := {} } (arrivals.filter fun a => a.isFrom settings source)

/-- A source whose rate is limited, and limited as if it were the only one. -/
structure Tracked (m : Memory) (arrivals : List (Arrival φ)) : Prop where
  recorded : ((afterAll settings m arrivals).rates.records.find? source).isSome = true
  drops_eq : drops settings source m arrivals = dropsAlone settings source m arrivals

/-- A source whose rate is not limited. -/
structure Untracked (m : Memory) (arrivals : List (Arrival φ)) : Prop where
  never_recorded : ∀ past, past <+: arrivals →
    (afterAll settings m past).rates.records.find? source = none
  never_dropped : ∀ past a h, past ++ [a] <+: arrivals → Header.read? a.frame = some h →
    h.source = source → (a.outcome settings (afterAll settings m past)).verdict ≠ .drop

end Definitions

variable {φ : Type} [Access φ] {settings : Settings} {source : Address} {m : Memory}

/-! ### Single frames -/

namespace Arrival

variable {a : Arrival φ}

lemma isFrom_iff : a.isFrom settings source = true ↔ limitedSource? settings a.frame = some source :=
  decide_eq_true_iff

lemma rates_outcome_of_unlimited (hlimited : limitedSource? settings a.frame = none) :
    (a.outcome settings m).state.rates = m.rates :=
  (process_rates_of_unlimited hlimited).1

lemma rates_outcome (hlimited : limitedSource? settings a.frame = some source) :
    (a.outcome settings m).state.rates = (allow m.rates source a.now settings.limit).2 ∧
      ((a.outcome settings m).verdict = .drop ↔
        (allow m.rates source a.now settings.limit).1 = false) :=
  process_rates_of_limited hlimited

/-- Whoever sends it, a frame is a request or leaves the table alone. -/
lemma extends_outcome (settings : Settings) (m : Memory) (a : Arrival φ) :
    m.rates.Extends (a.outcome settings m).state.rates := by
  cases hlimited : limitedSource? settings a.frame with
  | none =>
    rw [rates_outcome_of_unlimited hlimited]
    exact .refl m.rates
  | some other =>
    rw [(rates_outcome hlimited).1]
    exact m.rates.extends_allow other a.now settings.limit

/-- A frame that is not a signaling frame of a source leaves the record of that source alone. -/
lemma find?_outcome_of_not_isFrom (hother : ¬a.isFrom settings source = true) :
    (a.outcome settings m).state.rates.records.find? source = m.rates.records.find? source :=
  find?_process_of_ne fun hlimited => hother (isFrom_iff.2 hlimited)

/-- A signaling frame of a source that can have a record is treated by that record. -/
lemma outcome_iff_respond (hown : a.isFrom settings source = true)
    (htaken : m.rates.isFull = true → (m.rates.records.find? source).isSome = true) :
    ((a.outcome settings m).verdict = .drop ↔
        (respond settings.limit a.now (m.rates.records.find? source)).1 = false) ∧
      (a.outcome settings m).state.rates.records.find? source =
        (respond settings.limit a.now (m.rates.records.find? source)).2 := by
  obtain ⟨hrates, hdrop⟩ := rates_outcome (m := m) (isFrom_iff.1 hown)
  obtain ⟨hanswer, hrecord⟩ := m.rates.allow_eq_respond source a.now settings.limit htaken
  rw [hdrop, hrates, hanswer]
  exact ⟨Iff.rfl, hrecord⟩

/-- A frame is only dropped on account of a record of its source. -/
lemma isSome_find?_of_drop {h : Header} (hread : Header.read? a.frame = some h)
    (hdrop : (a.outcome settings m).verdict = .drop) :
    (m.rates.records.find? h.source).isSome = true := by
  obtain ⟨h', r, hread', -, hr, -⟩ := (process_verdict_eq_drop_iff _ _ _).1 hdrop
  obtain rfl : h' = h := Option.some_inj.1 (hread'.symm.trans hread)
  exact Option.isSome_iff_exists.2 ⟨r, hr⟩

end Arrival

/-! ### One source in a run -/

lemma afterAll_cons (a : Arrival φ) (arrivals : List (Arrival φ)) :
    afterAll settings m (a :: arrivals) = afterAll settings (a.outcome settings m).state arrivals :=
  rfl

lemma afterAll_append (past rest : List (Arrival φ)) :
    afterAll settings m (past ++ rest) = afterAll settings (afterAll settings m past) rest :=
  List.foldl_append

lemma extends_afterAll (settings : Settings) (m : Memory) (arrivals : List (Arrival φ)) :
    m.rates.Extends (afterAll settings m arrivals).rates := by
  induction arrivals generalizing m with
  | nil => exact .refl m.rates
  | cons a arrivals ih => exact (a.extends_outcome settings m).trans (ih (a.outcome settings m).state)

lemma isSome_afterAll {arrivals : List (Arrival φ)}
    (h : (m.rates.records.find? source).isSome = true) :
    ((afterAll settings m arrivals).rates.records.find? source).isSome = true :=
  Table.isSome_find?_iff.2
    ((extends_afterAll settings m arrivals).sources_subset (Table.isSome_find?_iff.1 h))

/-- The table has no bound, or takes the source in sooner or later. -/
def HasRoom (settings : Settings) (source : Address) (m : Memory) (arrivals : List (Arrival φ)) :
    Prop :=
  m.rates.capacity = none ∨
    ((afterAll settings m arrivals).rates.records.find? source).isSome = true

/-- A full table that will hold a record of a source already does. -/
lemma HasRoom.taken {arrivals : List (Arrival φ)} (h : HasRoom settings source m arrivals)
    (hfull : m.rates.isFull = true) : (m.rates.records.find? source).isSome = true := by
  rcases h with hcapacity | hrecorded
  · rw [Table.isFull_of_unlimited hcapacity] at hfull
    exact absurd hfull Bool.false_ne_true
  · rw [Table.isSome_find?_iff] at hrecorded ⊢
    rw [← (extends_afterAll settings m arrivals).full hfull]
    exact hrecorded

lemma HasRoom.tail {a : Arrival φ} {arrivals : List (Arrival φ)}
    (h : HasRoom settings source m (a :: arrivals)) :
    HasRoom settings source (a.outcome settings m).state arrivals :=
  h.imp_left (a.extends_outcome settings m).capacity_eq.trans

/-- The drops of a source are a matter of its own frames and its own record. -/
lemma drops_filter {arrivals : List (Arrival φ)} {alone : Memory}
    (hroom : HasRoom settings source m arrivals) (halone : alone.rates.capacity = none)
    (hrecord : m.rates.records.find? source = alone.rates.records.find? source) :
    drops settings source m arrivals =
      drops settings source alone (arrivals.filter fun a => a.isFrom settings source) := by
  induction arrivals generalizing m alone with
  | nil => rfl
  | cons a arrivals ih =>
    have hnext : (a.outcome settings alone).state.rates.capacity = none :=
      (a.extends_outcome settings alone).capacity_eq.trans halone
    by_cases hown : a.isFrom settings source = true
    · have hroomAlone : HasRoom settings source alone arrivals := .inl halone
      obtain ⟨hdrop, hafter⟩ := Arrival.outcome_iff_respond hown hroom.taken
      obtain ⟨hdropAlone, hafterAlone⟩ := Arrival.outcome_iff_respond hown hroomAlone.taken
      rw [hrecord] at hdrop hafter
      have hsame : decide ((a.outcome settings m).verdict = .drop) =
          decide ((a.outcome settings alone).verdict = .drop) :=
        decide_eq_decide.2 (hdrop.trans hdropAlone.symm)
      rw [List.filter_cons_of_pos hown, drops, drops]
      simp only [hown, if_true]
      rw [hsame, ih hroom.tail hnext (hafter.trans hafterAlone.symm)]
    · rw [List.filter_cons_of_neg hown, drops]
      simp only [hown, if_false, Bool.false_eq_true]
      exact ih hroom.tail halone ((Arrival.find?_outcome_of_not_isFrom hown).trans hrecord)

/-- Whoever has no record at the end never had one. -/
lemma untracked_of_unrecorded {arrivals : List (Arrival φ)}
    (hnone : (afterAll settings m arrivals).rates.records.find? source = none) :
    Untracked settings source m arrivals := by
  have hnever : ∀ past, past <+: arrivals →
      (afterAll settings m past).rates.records.find? source = none := by
    rintro past ⟨rest, rfl⟩
    rw [← Option.not_isSome_iff_eq_none] at hnone ⊢
    intro hsome
    rw [afterAll_append] at hnone
    exact hnone (isSome_afterAll hsome)
  refine ⟨hnever, ?_⟩
  rintro past a h hpast hread rfl hdrop
  have hsome := Arrival.isSome_find?_of_drop hread hdrop
  have hunrecorded := hnever past ((List.prefix_append past [a]).trans hpast)
  rw [hunrecorded] at hsome
  exact absurd hsome Bool.false_ne_true

/-- A table that is not full has taken in everyone who sent a signaling frame. -/
lemma isSome_afterAll_of_mem {arrivals : List (Arrival φ)} {a : Arrival φ}
    (hroom : (afterAll settings m arrivals).rates.isFull = false) (ha : a ∈ arrivals)
    (hown : a.isFrom settings source = true) :
    ((afterAll settings m arrivals).rates.records.find? source).isSome = true := by
  obtain ⟨past, rest, rfl⟩ := List.append_of_mem ha
  rw [afterAll_append] at hroom ⊢
  have htaken : (afterAll settings m past).rates.isFull = true →
      ((afterAll settings m past).rates.records.find? source).isSome = true := by
    intro hfull
    have hlater := (extends_afterAll settings (afterAll settings m past) (a :: rest)).isFull hfull
    rw [hroom] at hlater
    exact absurd hlater Bool.false_ne_true
  rw [afterAll_cons]
  refine isSome_afterAll ?_
  rw [(Arrival.outcome_iff_respond hown htaken).2]
  exact respond_isSome _ _ _

/-! ### All sources -/

section AllSources

variable {arrivals : List (Arrival φ)} (hblank : m.rates.records = [])
include hblank

lemma drops_eq_alone (hroom : HasRoom settings source m arrivals) :
    drops settings source m arrivals = dropsAlone settings source m arrivals := by
  have hrecord : m.rates.records.find? source = none := by rw [hblank]; rfl
  exact drops_filter hroom rfl hrecord

lemma tracked_of_recorded
    (hrecorded : ((afterAll settings m arrivals).rates.records.find? source).isSome = true) :
    Tracked settings source m arrivals :=
  ⟨hrecorded, drops_eq_alone hblank (.inr hrecorded)⟩

/-- The record at the end tells whether a source was tracked. -/
lemma tracked_xor_untracked :
    Xor (Tracked settings source m arrivals) (Untracked settings source m arrivals) := by
  cases hfind : (afterAll settings m arrivals).rates.records.find? source with
  | none =>
    refine .inr ⟨untracked_of_unrecorded hfind, fun htracked => ?_⟩
    have hsome := htracked.recorded
    rw [hfind] at hsome
    exact absurd hsome Bool.false_ne_true
  | some r =>
    refine .inl ⟨tracked_of_recorded hblank (by rw [hfind, Option.isSome_some]), ?_⟩
    intro huntracked
    have hnone := huntracked.never_recorded arrivals (List.prefix_refl arrivals)
    rw [hfind] at hnone
    exact Option.some_ne_none r hnone

/-- Every tracked source has a record in the table that the run leaves. -/
lemma encard_tracked_le {c : ℕ} (hcapacity : m.rates.capacity = some c) :
    {source | Tracked settings source m arrivals}.encard ≤ c := by
  have hextends := extends_afterAll settings m arrivals
  have hsubset : {source | Tracked settings source m arrivals} ⊆
      ((afterAll settings m arrivals).rates.sources.toFinset : Set Address) := by
    intro source htracked
    rw [Finset.mem_coe, List.mem_toFinset]
    exact Table.isSome_find?_iff.1 htracked.recorded
  have hlength : (afterAll settings m arrivals).rates.sources.length ≤ c := by
    rw [Table.length_sources]
    exact hextends.length_le c hcapacity (by rw [hblank]; exact Nat.zero_le c)
  calc {source | Tracked settings source m arrivals}.encard
      ≤ ((afterAll settings m arrivals).rates.sources.toFinset : Set Address).encard :=
        Set.encard_le_encard hsubset
    _ = (afterAll settings m arrivals).rates.sources.toFinset.card :=
        Set.encard_coe_eq_coe_finsetCard _
    _ ≤ c := Nat.cast_le.2 ((List.toFinset_card_le _).trans hlength)

end AllSources

/-- **Sources do not affect each other, and a full table limits nobody else.**  In a run that starts
with an empty rate table, the frames of a source are dropped as if it were the only one and the table
had no bound, or nothing it sends is dropped and it never has a record; the record tells the two kinds
of sources apart.  There are no more of the first kind than the table may hold, and until the table is
full everyone is of the first kind who sends a signaling frame.  Without a bound every source is
treated as if it were the only one.  Other frames leave the table as it is. -/
theorem sources_isolated (settings : Settings) (m : Memory) (capacity : Option ℕ)
    (arrivals : List (Arrival φ)) :
    let start : Memory := { m with rates := { capacity := capacity } }
    (∀ source, Xor (Tracked settings source start arrivals)
      (Untracked settings source start arrivals)) ∧
    (∀ c : ℕ, capacity = some c →
      {source | Tracked settings source start arrivals}.encard ≤ c) ∧
    (∀ source, (∃ a ∈ arrivals, a.isFrom settings source = true) →
      (afterAll settings start arrivals).rates.isFull = false →
        Tracked settings source start arrivals) ∧
    (capacity = none → ∀ source,
      drops settings source start arrivals = dropsAlone settings source start arrivals ∧
        ((∃ a ∈ arrivals, a.isFrom settings source = true) →
          Tracked settings source start arrivals)) ∧
    ∀ (s : Memory) (a : Arrival φ), limitedSource? settings a.frame = none →
      (a.outcome settings s).state.rates = s.rates := by
  intro start
  have hblank : start.rates.records = [] := rfl
  have htracked : ∀ source, (∃ a ∈ arrivals, a.isFrom settings source = true) →
      (afterAll settings start arrivals).rates.isFull = false →
        Tracked settings source start arrivals := by
    rintro source ⟨a, ha, hown⟩ hroom
    exact tracked_of_recorded hblank (isSome_afterAll_of_mem hroom ha hown)
  refine ⟨fun source => tracked_xor_untracked hblank, fun c hcapacity => ?_, htracked,
    fun hcapacity source => ⟨?_, fun hsends => ?_⟩, fun s a hlimited => ?_⟩
  · exact encard_tracked_le hblank hcapacity
  · exact drops_eq_alone hblank (.inl hcapacity)
  · have hunlimited : (afterAll settings start arrivals).rates.capacity = none :=
      (extends_afterAll settings start arrivals).capacity_eq.trans hcapacity
    exact htracked source hsends (Table.isFull_of_unlimited hunlimited)
  · exact Arrival.rates_outcome_of_unlimited hlimited

/-- A request of the host with a given last octet. -/
def requestFrom (host : UInt8) : Frame.Octets :=
  [2, 0, 0, 0, 0, 0xbb, 2, 0, 0, 0, 0, 0xaa, 8, 0,
    0x45, 0, 0, 28, 0, 0, 0x40, 0, 64, 17, 0, 0, 203, 0, 113, host, 198, 51, 100, 1,
    156, 64, 19, 196, 0, 8, 0, 0]

/-- Without the record the two kinds of sources overlap.  There is room for one of two sources that send
one request each.  The second has no record and is never denied, but nor would it be if it were the
only one: a source within its limit is treated alike whether it is tracked or not. -/
theorem singleRequests_dropped_as_alone :
    let settings : Settings := { rateLimit := 1 }
    let start : Memory := { rates := { capacity := some 1 } }
    let arrivals : List (Arrival Frame.Octets) := [⟨0, requestFrom 5⟩, ⟨0, requestFrom 6⟩]
    let alike : Set Address :=
      {source | drops settings source start arrivals = dropsAlone settings source start arrivals}
    0xcb007105 ∈ alike ∧ 0xcb007106 ∈ alike ∧ Untracked settings 0xcb007106 start arrivals ∧
      ¬(∀ source, Xor (source ∈ alike) (Untracked settings source start arrivals)) ∧
      ¬alike.encard ≤ 1 := by
  intro settings start arrivals alike
  have hfirst : 0xcb007105 ∈ alike := by decide
  have hsecond : 0xcb007106 ∈ alike := by decide
  have hnone : (afterAll settings start arrivals).rates.records.find? 0xcb007106 = none := by decide
  have huntracked : Untracked settings 0xcb007106 start arrivals := untracked_of_unrecorded hnone
  refine ⟨hfirst, hsecond, huntracked, fun hone => ?_, ?_⟩
  · rcases hone 0xcb007106 with ⟨-, hnot⟩ | ⟨-, hnot⟩
    · exact hnot huntracked
    · exact hnot hsecond
  · rw [not_le, Set.one_lt_encard_iff]
    exact ⟨_, _, hfirst, hsecond, by decide⟩

end VoiceSteering.Rate
