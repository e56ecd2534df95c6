/-
# Sweeps that are interrupted

A sweep decides by the records as it has collected them, and removes the sources later, one by one.
Requests may come in between.  A request of a source that is about to be removed finds a window that
is over and opens a new one, so from then on the record is not expired; it is removed all the same,
and the source has its whole budget once more.

What holds of a source on the list is an invariant of the run (`Standing`): its record is the one
that was collected, or, once it has asked, one that was opened after the collection.
-/
import Mathlib.Data.List.Induction
import Mathlib.Data.List.Nodup
import VoiceSteering.Proofs.Rate.Window

namespace VoiceSteering.Rate

/-! ### The table without one record -/

lemma Table.find?_erase_self (t : Table) (source : Address) :
    (t.erase source).records.find? source = none := by
  rw [erase, Records.find?_erase, if_pos rfl]

lemma Table.find?_erase_of_ne (t : Table) {source other : Address} (hne : other ≠ source) :
    (t.erase source).records.find? other = t.records.find? other := by
  rw [erase, Records.find?_erase, if_neg hne]

/-- A source without a record is admitted. -/
lemma allow_erase (t : Table) (source : Address) (now : UInt64) (limit : Limit) :
    (allow (t.erase source) source now limit).1 = true := by
  simp only [allow, Store.lookup, t.find?_erase_self]

/-! ### Requests and removals by turns -/

/-- A sweep under way. -/
structure Sweeping where
  table : Table
  /-- The sources that are still to be removed. -/
  pending : List Address

namespace Sweeping

/-- The sweep has collected the records and removed none yet. -/
def collected (t : Table) (now : UInt64) (policy : SweepPolicy) : Sweeping :=
  ⟨t, expiredSources t.records now policy⟩

/-- What may happen next. -/
inductive Step where
  /-- A source asks to be admitted. -/
  | request (now : UInt64) (source : Address)
  /-- The sweep removes the next source of its list. -/
  | removal
deriving DecidableEq, Repr

/-- A source has asked during some steps. -/
def Asked (steps : List Step) (source : Address) : Prop := ∃ now, Step.request now source ∈ steps

/-- All requests come at some reading of the clock or later. -/
def NotBefore (now : UInt64) (steps : List Step) : Prop :=
  ∀ (reading : UInt64) (source : Address), Step.request reading source ∈ steps → now ≤ reading

/-- The sweep removes the next source. -/
def remove : Sweeping → Sweeping
  | ⟨table, []⟩ => ⟨table, []⟩
  | ⟨table, source :: pending⟩ => ⟨table.erase source, pending⟩

section Run

variable (limit : Limit)

def step (s : Sweeping) : Step → Sweeping
  | .request now source => ⟨(allow s.table source now limit).2, s.pending⟩
  | .removal => s.remove

def run (s : Sweeping) (steps : List Step) : Sweeping := steps.foldl (step limit) s

end Run

variable {limit : Limit} {now idleWindows : UInt64} {t : Table} {steps : List Step}
  {source : Address} {s : Sweeping}

lemma run_concat (s : Sweeping) (steps : List Step) (next : Step) :
    s.run limit (steps ++ [next]) = (s.run limit steps).step limit next :=
  List.foldl_concat _ _ _ _

lemma remove_of_pending {pending : List Address} (hpending : s.pending = source :: pending) :
    s.remove = ⟨s.table.erase source, pending⟩ := by
  obtain ⟨table, list⟩ := s
  obtain rfl : list = source :: pending := hpending
  rfl

/-- A sweep that nothing interrupts is the sweep of the table. -/
lemma run_removals (s : Sweeping) :
    s.run limit (List.replicate s.pending.length .removal) =
      ⟨s.pending.foldl Table.erase s.table, []⟩ := by
  obtain ⟨table, pending⟩ := s
  induction pending generalizing table with
  | nil => rfl
  | cons source pending ih => exact ih (table.erase source)

theorem run_collected_removals (t : Table) (now : UInt64) (policy : SweepPolicy) :
    let s := collected t now policy
    (s.run limit (List.replicate s.pending.length .removal)).table = (t.sweep now policy).2 := by
  intro s
  rw [run_removals]
  rfl

/-! ### Sources that have asked -/

lemma asked_concat_request {other : Address} {reading : UInt64} :
    Asked (steps ++ [.request reading other]) source ↔ Asked steps source ∨ source = other := by
  constructor
  · rintro ⟨now, hmem⟩
    obtain hmem | heq := List.mem_append.1 hmem
    · exact .inl ⟨now, hmem⟩
    · exact .inr (Step.request.inj (List.mem_singleton.1 heq)).2
  · rintro (⟨now, hmem⟩ | rfl)
    · exact ⟨now, List.mem_append_left _ hmem⟩
    · exact ⟨reading, List.mem_append_right _ (List.mem_singleton.2 rfl)⟩

lemma asked_concat_removal : Asked (steps ++ [.removal]) source ↔ Asked steps source := by
  simp [Asked]

lemma NotBefore.of_concat {next : Step} (hlate : NotBefore now (steps ++ [next])) :
    NotBefore now steps :=
  fun reading source hmem => hlate reading source (List.mem_append_left _ hmem)

/-! ### The record of a source on the list -/

/-- A record that was opened after the collection is not expired. -/
lemma isExpired_eq_false_of_le {r : Record} (window : UInt64) (hopened : now ≤ r.windowStart) :
    r.isExpired now window idleWindows = false := by
  have hidle : Saturating.sub now r.windowStart = 0 := by
    rw [← UInt64.toNat_inj, Saturating.toNat_sub]
    exact Nat.sub_eq_zero_of_le (UInt64.le_iff_toNat_le.1 hopened)
  rw [Record.isExpired, hidle]
  exact decide_eq_false (UInt64.not_lt.2 (UInt64.le_iff_toNat_le.2 (Nat.zero_le _)))

/-- Whoever asks leaves a record that was opened after the collection, if the record was expired
then or opened later. -/
lemma le_windowStart_of_respond {r : Record} {reading : UInt64} (hreading : now ≤ reading)
    (hstood : r.isExpired now limit.window idleWindows = true ∨ now ≤ r.windowStart) :
    ∃ r', (respond limit reading (some r)).2 = some r' ∧ now ≤ r'.windowStart := by
  obtain hexpired | hopened := hstood
  · have hover := Record.later_of_isExpired hexpired
    have hlater : r.windowStart.toNat + limit.window.toNat < reading.toNat :=
      Nat.lt_of_lt_of_le hover (UInt64.le_iff_toNat_le.1 hreading)
    refine ⟨.opened reading, ?_, hreading⟩
    simp only [respond, Record.allow?_of_later hlater]
  · cases hnext : r.allow? limit reading with
    | none => exact ⟨r, by simp only [respond, hnext], hopened⟩
    | some r' =>
      refine ⟨r', by simp only [respond, hnext], ?_⟩
      obtain rfl | ⟨-, rfl⟩ := Record.allow?_cases hnext
      · exact hreading
      · exact hopened

/-- What is known of a source on the list: the record that was collected, and the one it has now. -/
structure Stood (now window idleWindows : UInt64) (steps : List Step) (source : Address)
    (collected r : Record) : Prop where
  expired : collected.isExpired now window idleWindows = true
  eq_collected : ¬Asked steps source → r = collected
  le_windowStart : Asked steps source → now ≤ r.windowStart

/-- The sweep of a table after some steps: every source on the list has a record. -/
structure Standing (t : Table) (now window idleWindows : UInt64) (steps : List Step)
    (s : Sweeping) : Prop where
  nodup : s.pending.Nodup
  stood : ∀ source ∈ s.pending, ∃ collected r, t.records.find? source = some collected ∧
    s.table.records.find? source = some r ∧
    Stood now window idleWindows steps source collected r

section Stood

variable {window : UInt64} {before r : Record}

lemma Stood.expired_or_le (hstood : Stood now window idleWindows steps source before r) :
    r.isExpired now window idleWindows = true ∨ now ≤ r.windowStart := by
  by_cases hasked : Asked steps source
  · exact .inr (hstood.le_windowStart hasked)
  · rw [hstood.eq_collected hasked]
    exact .inl hstood.expired

/-- Only a source that has not asked has an expired record. -/
lemma Stood.isExpired_iff (hstood : Stood now window idleWindows steps source before r) :
    r.isExpired now window idleWindows = true ↔ ¬Asked steps source := by
  constructor
  · intro hexpired hasked
    rw [isExpired_eq_false_of_le window (hstood.le_windowStart hasked)] at hexpired
    exact Bool.false_ne_true hexpired
  · intro hquiet
    rw [hstood.eq_collected hquiet]
    exact hstood.expired

/-- Steps in which the source does not ask change nothing. -/
lemma Stood.of_asked_iff {steps' : List Step}
    (hstood : Stood now window idleWindows steps source before r)
    (hasked : Asked steps' source ↔ Asked steps source) :
    Stood now window idleWindows steps' source before r :=
  ⟨hstood.expired, fun hquiet => hstood.eq_collected (mt hasked.2 hquiet),
    fun hasked' => hstood.le_windowStart (hasked.1 hasked')⟩

end Stood

lemma standing_collected (hunique : t.records.Unique) (now : UInt64) (policy : SweepPolicy) :
    Standing t now policy.window policy.idleWindows [] (collected t now policy) := by
  refine ⟨hunique.sublist (List.filter_sublist.map Prod.fst), fun source hsource => ?_⟩
  obtain ⟨r, hfind, hexpired⟩ := (hunique.mem_expiredSources now policy source).1 hsource
  refine ⟨r, r, hfind, hfind, hexpired, fun _ => rfl, ?_⟩
  rintro ⟨reading, hmem⟩
  exact absurd hmem List.not_mem_nil

/-- A request renews the record of the source that asks and leaves the others alone. -/
lemma Standing.request (hs : Standing t now limit.window idleWindows steps s) {reading : UInt64}
    (hreading : now ≤ reading) (other : Address) :
    Standing t now limit.window idleWindows (steps ++ [.request reading other])
      (s.step limit (.request reading other)) := by
  refine ⟨hs.nodup, fun source hsource => ?_⟩
  obtain ⟨before, r, hbefore, hfind, hstood⟩ := hs.stood source hsource
  by_cases hsame : source = other
  · subst hsame
    have hrecord := (s.table.allow_eq_respond source reading limit fun _ => by rw [hfind]; rfl).2
    obtain ⟨r', hrespond, hopened⟩ := le_windowStart_of_respond hreading hstood.expired_or_le
    rw [hfind, hrespond] at hrecord
    exact ⟨before, r', hbefore, hrecord, hstood.expired,
      fun hquiet => absurd (asked_concat_request.2 (.inr rfl)) hquiet, fun _ => hopened⟩
  · refine ⟨before, r, hbefore, (find?_allow_of_ne s.table hsame).trans hfind,
      hstood.of_asked_iff ?_⟩
    rw [asked_concat_request, or_iff_left hsame]

/-- A removal takes a source off the list, and the others keep their records. -/
lemma Standing.removal {window : UInt64} (hs : Standing t now window idleWindows steps s) :
    Standing t now window idleWindows (steps ++ [.removal]) (s.step limit .removal) := by
  obtain ⟨table, _ | ⟨removed, pending⟩⟩ := s
  · exact ⟨List.nodup_nil, fun source hsource => absurd hsource List.not_mem_nil⟩
  · obtain ⟨hremoved, hnodup⟩ := List.nodup_cons.1 hs.nodup
    refine ⟨hnodup, fun source hsource => ?_⟩
    obtain ⟨before, r, hbefore, hfind, hstood⟩ :=
      hs.stood source (List.mem_cons_of_mem _ hsource)
    have hne : source ≠ removed := fun heq => hremoved (heq ▸ hsource)
    exact ⟨before, r, hbefore, (table.find?_erase_of_ne hne).trans hfind,
      hstood.of_asked_iff asked_concat_removal⟩

lemma standing_run (hunique : t.records.Unique) (hlate : NotBefore now steps) :
    Standing t now limit.window idleWindows steps
      ((collected t now ⟨limit.window, idleWindows⟩).run limit steps) := by
  induction steps using List.reverseRecOn with
  | nil => exact standing_collected hunique now ⟨limit.window, idleWindows⟩
  | append_singleton steps next ih =>
    rw [run_concat]
    have hbefore := ih hlate.of_concat
    cases next with
    | request reading other =>
      have hreading : now ≤ reading :=
        hlate reading other (List.mem_append_right _ (List.mem_singleton.2 rfl))
      exact hbefore.request hreading other
    | removal => exact hbefore.removal

/-! ### What a removal takes -/

/-- **A removal takes a live record if the source has asked meanwhile.**  Whenever the sweep is about
to remove a source, the source was expired when the records were collected.  Its record is still
that one, and still expired, exactly if the source has not asked since.  The removal takes it in
either case and no other record, and the next request of the source is admitted. -/
theorem removed_record_expired_iff (limit : Limit) (idleWindows : UInt64) {t : Table}
    (hunique : t.records.Unique) {now : UInt64} {steps : List Step} (hlate : NotBefore now steps)
    {source : Address} {pending : List Address}
    (hpending : ((collected t now ⟨limit.window, idleWindows⟩).run limit steps).pending =
      source :: pending) :
    let s := (collected t now ⟨limit.window, idleWindows⟩).run limit steps
    (∃ before r, t.records.find? source = some before ∧
        before.isExpired now limit.window idleWindows = true ∧
        s.table.records.find? source = some r ∧ (¬Asked steps source → r = before) ∧
        (r.isExpired now limit.window idleWindows = true ↔ ¬Asked steps source)) ∧
      s.remove.table.records.find? source = none ∧
      (∀ other, other ≠ source →
        s.remove.table.records.find? other = s.table.records.find? other) ∧
      ∀ reading, (allow s.remove.table source reading limit).1 = true := by
  intro s
  have hstanding : Standing t now limit.window idleWindows steps s := standing_run hunique hlate
  obtain ⟨before, r, hbefore, hfind, hstood⟩ :=
    hstanding.stood source (hpending ▸ List.mem_cons_self)
  rw [remove_of_pending hpending]
  exact ⟨⟨before, r, hbefore, hstood.expired, hfind, hstood.eq_collected, hstood.isExpired_iff⟩,
    s.table.find?_erase_self source, fun other hne => s.table.find?_erase_of_ne hne,
    fun reading => allow_erase s.table source reading limit⟩

/-- Two sources whose windows of length ten are over.  One of them asks before it is removed. -/
def twoIdle : Table := { records := [(7, ⟨1, 0⟩), (8, ⟨1, 0⟩)] }

theorem twoIdle_removes_live_record :
    let s := (collected twoIdle 11 ⟨10, 1⟩).run ⟨1, 10⟩ [.request 11 8, .removal]
    s.pending = [8] ∧ s.table.records.find? 8 = some ⟨1, 11⟩ ∧
      s.remove.table.records.find? 8 = none := by
  intro s
  have hunique : twoIdle.records.Unique := by
    show (twoIdle.records.map Prod.fst).Nodup
    decide
  have hlate : NotBefore 11 [.request 11 8, .removal] := by
    intro reading source hmem
    obtain ⟨rfl, -⟩ : reading = 11 ∧ source = 8 := by simpa using hmem
    exact UInt64.le_refl 11
  have hpending : s.pending = [8] := by decide
  obtain ⟨-, hgone, -, -⟩ := removed_record_expired_iff ⟨1, 10⟩ 1 hunique hlate hpending
  exact ⟨hpending, by decide, hgone⟩

/-- A source that asks again before it is removed loses the record of its new window.  Its next
request would have been denied, but is admitted then. -/
theorem revived_source_is_swept :
    let s := (collected twoIdle 11 ⟨10, 1⟩).run ⟨1, 10⟩ [.removal, .request 11 8]
    s.pending = [8] ∧ s.table.records.find? 8 = some ⟨1, 11⟩ ∧
      Record.isExpired ⟨1, 11⟩ 11 10 1 = false ∧
      (s.step ⟨1, 10⟩ .removal).table.records.find? 8 = none ∧
      (allow s.table 8 12 ⟨1, 10⟩).1 = false ∧
      (allow (s.step ⟨1, 10⟩ .removal).table 8 12 ⟨1, 10⟩).1 = true := by
  decide

end Sweeping

end VoiceSteering.Rate
