/-
# Sweeps change no answer

A sweep takes a record away, so the source starts anew with its next request.  It would have done so
with the record as well: what a sweep takes is expired, an expired record's window is over, and a
request after the window opens the next one whatever the record counted.

Two runs are compared here that differ in their sweeps only.  Their tables differ, since one keeps
what the other drops, but the records of every source stay alike: they are the same, or one is gone
and the window of the other has passed.
-/
import VoiceSteering.Proofs.Rate.Window

namespace VoiceSteering.Rate

/-! ### Records that answer alike -/

/-- The record of a source in a table that is never swept, and in one that is, at a reading of the
clock. -/
inductive Alike (limit : Limit) (clock : ℕ) : Option Record → Option Record → Prop where
  | same (record : Option Record) : Alike limit clock record record
  /-- The record was swept, and its window is over. -/
  | swept {r : Record} (hover : r.windowStart.toNat + limit.window.toNat < clock) :
      Alike limit clock (some r) none

namespace Alike

variable {limit : Limit} {clock : ℕ} {kept swept : Option Record} {now : UInt64}

lemma mono (h : Alike limit clock kept swept) {later : ℕ} (hclock : clock ≤ later) :
    Alike limit later kept swept := by
  cases h with
  | same => exact .same kept
  | swept hover => exact .swept (Nat.lt_of_lt_of_le hover hclock)

/-- A request gets the same answer, and leaves the same record. -/
lemma respond_eq (h : Alike limit clock kept swept) (hclock : clock ≤ now.toNat) :
    respond limit now kept = respond limit now swept := by
  cases h with
  | same => rfl
  | swept hover =>
    -- both open a window, one with a new record and one in the record of the window that is over
    simp only [respond, Record.allow?_of_later (Nat.lt_of_lt_of_le hover hclock)]

/-- A sweep of the second table. -/
lemma sweep (h : Alike limit clock kept swept) (hclock : clock ≤ now.toNat)
    (idleWindows : UInt64) :
    Alike limit now.toNat kept
      (swept.filter fun r => !r.isExpired now limit.window idleWindows) := by
  cases h with
  | swept hover => exact .swept (Nat.lt_of_lt_of_le hover hclock)
  | same =>
    cases kept with
    | none => exact .same none
    | some r =>
      rw [Option.filter_some]
      cases hexpired : r.isExpired now limit.window idleWindows with
      | true => exact .swept (Record.later_of_isExpired hexpired)
      | false => exact .same (some r)

end Alike

/-! ### Runs of requests and sweeps -/

/-- A use of a rate table, at a reading of the clock. -/
inductive Use where
  /-- A source asks to be admitted. -/
  | request (now : UInt64) (source : Address)
  /-- A sweep runs without interruption. -/
  | sweep (now idleWindows : UInt64)
deriving DecidableEq, Repr

/-- When a table is used. -/
def Use.now : Use → UInt64
  | request now _ => now
  | sweep now _ => now

def Use.isRequest : Use → Bool
  | request _ _ => true
  | sweep _ _ => false

/-- The answers to the requests of a run, in their order. -/
def answers (limit : Limit) : Table → List Use → List Bool
  | _, [] => []
  | t, .request now source :: uses =>
    (allow t source now limit).1 :: answers limit (allow t source now limit).2 uses
  | t, .sweep now idleWindows :: uses =>
    answers limit (t.sweep now ⟨limit.window, idleWindows⟩).2 uses

/-- Two tables whose records are alike for every source. -/
structure Table.Alike (limit : Limit) (clock : ℕ) (kept swept : Table) : Prop where
  kept_open : kept.Open
  swept_open : swept.Open
  records : ∀ source,
    Rate.Alike limit clock (kept.records.find? source) (swept.records.find? source)

namespace Table.Alike

variable {limit : Limit} {clock : ℕ} {kept swept : Table}

lemma allow (h : kept.Alike limit clock swept) (now : UInt64) (hclock : clock ≤ now.toNat)
    (source : Address) :
    (Rate.allow kept source now limit).1 = (Rate.allow swept source now limit).1 ∧
      (Rate.allow kept source now limit).2.Alike limit now.toNat
        (Rate.allow swept source now limit).2 := by
  obtain ⟨hanswer, hrecord⟩ := h.kept_open.allow_eq source now limit
  obtain ⟨hanswer', hrecord'⟩ := h.swept_open.allow_eq source now limit
  have hrespond := (h.records source).respond_eq hclock
  refine ⟨by rw [hanswer, hanswer', hrespond],
    h.kept_open.allow source, h.swept_open.allow source, fun other => ?_⟩
  rcases eq_or_ne other source with rfl | hne
  · rw [hrecord, hrecord', hrespond]
    exact .same _
  · rw [find?_allow_of_ne _ hne, find?_allow_of_ne _ hne]
    exact (h.records other).mono hclock

lemma sweep (h : kept.Alike limit clock swept) (now : UInt64) (hclock : clock ≤ now.toNat)
    (idleWindows : UInt64) :
    kept.Alike limit now.toNat (swept.sweep now ⟨limit.window, idleWindows⟩).2 := by
  refine ⟨h.kept_open, h.swept_open.sweep now _, fun source => ?_⟩
  rw [h.swept_open.find?_sweep]
  exact (h.records source).sweep hclock idleWindows

end Table.Alike

/-- A run without its sweeps on one table, and the run itself on a table that is alike. -/
lemma answers_filter_isRequest {limit : Limit} {clock : ℕ} {kept swept : Table} (uses : List Use)
    (h : kept.Alike limit clock swept) (hclock : ∀ use ∈ uses, clock ≤ use.now.toNat)
    (hsorted : (uses.map Use.now).Pairwise (· ≤ ·)) :
    answers limit kept (uses.filter Use.isRequest) = answers limit swept uses := by
  induction uses generalizing kept swept clock with
  | nil => rfl
  | cons use uses ih =>
    rw [List.map_cons, List.pairwise_cons] at hsorted
    have hnow := hclock use (List.mem_cons_self ..)
    have hlater : ∀ use' ∈ uses, use.now.toNat ≤ use'.now.toNat := fun use' huse' =>
      UInt64.le_iff_toNat_le.1 (hsorted.1 _ (List.mem_map_of_mem huse'))
    cases use with
    | request now source =>
      obtain ⟨hanswer, hnext⟩ := h.allow now hnow source
      rw [List.filter_cons_of_pos rfl, answers, answers, hanswer, ih hnext hlater hsorted.2]
    | sweep now idleWindows =>
      rw [List.filter_cons_of_neg Bool.false_ne_true, answers]
      exact ih (h.sweep now hnow idleWindows) hlater hsorted.2

/-- **Sweeps change no answer.**  Whatever a table holds that takes every new source, and wherever
sweeps run between the requests, each request is answered as if no sweep had run. -/
theorem answers_unchanged_by_sweeps (limit : Limit) {t : Table} (ht : t.Open) (uses : List Use)
    (hsorted : (uses.map Use.now).Pairwise (· ≤ ·)) :
    answers limit t uses = answers limit t (uses.filter Use.isRequest) :=
  (answers_filter_isRequest uses ⟨ht, ht, fun source => .same (t.records.find? source)⟩
    (fun use _ => Nat.zero_le use.now.toNat) hsorted).symm

/-- Two requests per window of length ten, on a table that knows one source.  One sweep takes a
record at the first moment it may, the other one finds nothing that has been idle for so long. -/
theorem recurringSource_answers :
    let t : Table := { records := [(7, ⟨2, 90⟩)] }
    let uses : List Use := [.request 100 7, .request 100 8, .sweep 101 0, .request 101 7,
      .request 102 7, .sweep 102 0xffffffffffffffff, .request 103 7]
    t.Open ∧ (uses.map Use.now).Pairwise (· ≤ ·) ∧
      answers ⟨2, 10⟩ t uses = [false, true, true, true, false] ∧
      answers ⟨2, 10⟩ t (uses.filter Use.isRequest) = [false, true, true, true, false] := by
  intro t uses
  have ht : t.Open := ⟨rfl, List.nodup_cons.2 ⟨List.not_mem_nil, List.nodup_nil⟩⟩
  have hsorted : (uses.map Use.now).Pairwise (· ≤ ·) := by decide
  have hanswers : answers ⟨2, 10⟩ t uses = [false, true, true, true, false] := by decide
  exact ⟨ht, hsorted, hanswers,
    (answers_unchanged_by_sweeps ⟨2, 10⟩ ht uses hsorted).symm.trans hanswers⟩

end VoiceSteering.Rate
