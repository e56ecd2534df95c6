/-
# What two updates at the same time leave

Both edits are kept, but the look-up table may be that of slots the pool does not have, or a mixture
of two tables: whether an update has missed the other edit is open, and so is for every entry which
of the updates writes it last.  Every such outcome comes about.  The table is sure to be that of the
slots only if it makes no difference to the table whether one or both edits are made.
-/
import VoiceSteering.Proofs.Maglev.Balance
import VoiceSteering.Proofs.Pool.Phases

namespace VoiceSteering

open VoiceSteering.Maglev (buildTable)

/-! ### Turns until the end -/

/-- How many accesses an update still has to make. -/
def UpdatePhase.accesses : UpdatePhase → ℕ
  | reading left _ => left.length + 4100
  | writing _ left => left.length

lemma UpdatePhase.accesses_next (e : PoolEdit) (slots : SlotTable) (phase : UpdatePhase) :
    (phase.next e slots).accesses = phase.accesses - 1 := by
  match phase with
  | reading [] _ => exact List.length_finRange
  | reading (_ :: left) _ => simp only [next, accesses, List.length_cons]; omega
  | writing _ left => exact List.length_tail

lemma UpdatePhase.accesses_eq_zero_iff {phase : UpdatePhase} :
    phase.accesses = 0 ↔ ∃ table, phase = writing table [] := by
  cases phase <;> simp [accesses]

namespace Updates

variable {edits : Bool → PoolEdit} {s : Updates} {who : Bool}

lemma accesses_run (s : Updates) (who : Bool) (turns : List Bool) :
    ((s.run edits turns).phase who).accesses = (s.phase who).accesses - turns.count who := by
  induction turns generalizing s with
  | nil => rfl
  | cons first turns ih =>
    refine (ih _).trans ?_
    rcases eq_or_ne who first with rfl | hne
    · rw [phase_turn_self, UpdatePhase.accesses_next, List.count_cons_self]
      omega
    · rw [phase_turn_of_ne s hne, List.count_cons_of_ne hne.symm]

/-- Two updates have come to their ends once each of them has made its 4116 accesses. -/
theorem finished_iff (maps : PoolMaps) (turns : List Bool) :
    ((Overlap.mk maps fun who => (edits who).script).run turns).Finished ↔
      ∀ who, 4116 ≤ turns.count who := by
  rw [← overlap_start, ← overlap_run]
  refine forall_congr' fun who => ?_
  have haccesses : ((start maps).phase who).accesses = 4116 := by
    simp only [start, UpdatePhase.accesses, List.length_finRange]
  rw [overlap, UpdatePhase.script_eq_done_iff, ← UpdatePhase.accesses_eq_zero_iff, accesses_run,
    haccesses, Nat.sub_eq_zero_iff_le]

/-! ### Schedules -/

lemma update_both (f p : Bool → UpdatePhase) (who : Bool) :
    Function.update (Function.update f (!who) (p (!who))) who (p who) = p := by
  funext other
  rcases eq_or_ne other who with rfl | hne
  · exact Function.update_self ..
  · rw [Function.update_of_ne hne, Bool.eq_not.2 hne]
    exact Function.update_self ..

lemma run_replicate_succ {maps maps' : PoolMaps} {phase phase' : UpdatePhase} {n : ℕ}
    (hturn : s.turn edits who = ⟨maps, Function.update s.phase who phase⟩)
    (hrest : (s.turn edits who).run edits (List.replicate n who) =
      ⟨maps', Function.update (s.turn edits who).phase who phase'⟩) :
    s.run edits (List.replicate (n + 1) who) = ⟨maps', Function.update s.phase who phase'⟩ := by
  rw [List.replicate_succ, run_cons, hrest, hturn, Function.update_idem]

lemma run_reading {left : List (Fin 16)} {copy : SlotTable}
    (hphase : s.phase who = .reading left copy) :
    s.run edits (List.replicate left.length who) = ⟨s.maps, Function.update s.phase who
      (.reading [] (copyOver s.maps.slots left copy))⟩ := by
  induction left generalizing s copy with
  | nil => rw [copyOver, List.foldl_nil, ← hphase, Function.update_eq_self]; rfl
  | cons i left ih =>
    have hturn : s.turn edits who =
        ⟨s.maps, Function.update s.phase who (.reading left (copy.set i s.maps.slots[i]))⟩ := by
      rw [turn, hphase]
      rfl
    have hphase' : (s.turn edits who).phase who = .reading left (copy.set i s.maps.slots[i]) := by
      rw [hturn]
      exact Function.update_self ..
    refine run_replicate_succ hturn ((ih hphase').trans ?_)
    rw [hturn, copyOver_cons]

lemma run_writing {table : SlotTable} {left : List (Fin 4099)}
    (hphase : s.phase who = .writing table left) :
    s.run edits (List.replicate left.length who) =
      ⟨{ s.maps with maglev := copyOver (buildTable table.toList) left s.maps.maglev },
        Function.update s.phase who (.writing table [])⟩ := by
  induction left generalizing s with
  | nil => rw [copyOver, List.foldl_nil, ← hphase, Function.update_eq_self]; rfl
  | cons i left ih =>
    have hturn : s.turn edits who =
        ⟨{ s.maps with maglev := s.maps.maglev.set i (buildTable table.toList)[i] },
          Function.update s.phase who (.writing table left)⟩ := by
      rw [turn, hphase]
      rfl
    have hphase' : (s.turn edits who).phase who = .writing table left := by
      rw [hturn]
      exact Function.update_self ..
    refine run_replicate_succ hturn ((ih hphase').trans ?_)
    rw [hturn, copyOver_cons]

/-- When both updates write their tables and one of them follows the other entry by entry, it is
open for every entry which one follows. -/
lemma run_alternating {tables : Bool → SlotTable} {last : Fin 4099 → Bool} {t : Maglev.Table}
    (ht : ∀ i, t.get i = (buildTable (tables (last i)).toList).get i) (maps : PoolMaps)
    (left : List (Fin 4099)) :
    (Updates.mk maps fun who => .writing (tables who) left).run edits
        (left.flatMap fun i => [!last i, last i]) =
      ⟨{ maps with maglev := copyOver t left maps.maglev },
        fun who => .writing (tables who) []⟩ := by
  induction left generalizing maps with
  | nil => rfl
  | cons i left ih =>
    have hturns : (Updates.mk maps fun who => .writing (tables who) (i :: left)).run edits
        [!last i, last i] = ⟨{ maps with maglev := maps.maglev.set i t[i] },
          fun who => .writing (tables who) left⟩ := by
      have hfollower : last i ≠ !last i := Bool.self_ne_not _
      have hentry : t[(i : ℕ)] = (buildTable (tables (last i)).toList)[(i : ℕ)] := ht i
      show ((Updates.mk maps fun who => .writing (tables who) (i :: left)).turn edits
        (!last i)).turn edits (last i) = _
      -- the second write to the entry is the one that stays
      simp only [turn, UpdatePhase.access, UpdatePhase.next, Function.update_of_ne hfollower,
        List.tail_cons, Vector.set_set, ← hentry, Updates.mk.injEq]
      exact ⟨rfl, update_both _ (fun who => .writing (tables who) left) (last i)⟩
    rw [List.flatMap_cons, run_append, hturns, ih, copyOver_cons]

lemma run_reading_all (hphase : s.phase who = .reading (List.finRange 16) SlotTable.empty) :
    s.run edits (List.replicate 16 who) =
      ⟨s.maps, Function.update s.phase who (.reading [] s.maps.slots)⟩ := by
  rw [← copyOver_finRange s.maps.slots SlotTable.empty]
  exact run_reading hphase

lemma turn_storing {copy : SlotTable} (hphase : s.phase who = .reading [] copy) :
    s.turn edits who =
      ⟨{ s.maps with slots := (edits who).apply s.maps.slots }, Function.update s.phase who
        (.writing ((edits who).apply copy) (List.finRange 4099))⟩ := by
  rw [turn, hphase]
  rfl

lemma run_storing (hphase : s.phase who = .reading (List.finRange 16) SlotTable.empty) :
    s.run edits (List.replicate 16 who ++ [who]) =
      ⟨{ s.maps with slots := (edits who).apply s.maps.slots }, Function.update s.phase who
        (.writing ((edits who).apply s.maps.slots) (List.finRange 4099))⟩ := by
  rw [run_append, run_reading_all hphase]
  refine (turn_storing (Function.update_self ..)).trans ?_
  rw [Function.update_idem]

lemma run_rest {copy : SlotTable} (hphase : s.phase who = .reading [] copy) :
    s.run edits (List.replicate 4100 who) =
      ⟨⟨(edits who).apply s.maps.slots, buildTable ((edits who).apply copy).toList⟩,
        Function.update s.phase who (.writing ((edits who).apply copy) [])⟩ := by
  have hphase' : (s.turn edits who).phase who =
      .writing ((edits who).apply copy) (List.finRange 4099) := by
    rw [turn_storing hphase]
    exact Function.update_self ..
  have hrest : (s.turn edits who).run edits (List.replicate (List.finRange 4099).length who) = _ :=
    run_writing hphase'
  rw [List.length_finRange, copyOver_finRange] at hrest
  refine run_replicate_succ (turn_storing hphase) (hrest.trans ?_)
  rw [turn_storing hphase]

/-- An update that nobody interrupts. -/
lemma run_whole (hphase : s.phase who = .reading (List.finRange 16) SlotTable.empty) :
    s.run edits (List.replicate 4116 who) =
      ⟨⟨(edits who).apply s.maps.slots, buildTable ((edits who).apply s.maps.slots).toList⟩,
        Function.update s.phase who (.writing ((edits who).apply s.maps.slots) [])⟩ := by
  rw [show 4116 = 16 + 4100 from rfl, ← List.replicate_append_replicate, run_append,
    run_reading_all hphase, run_rest (Function.update_self ..)]
  simp only [Function.update_idem]

variable {tables : Bool → SlotTable} {maps : PoolMaps}
  (hslots : (edits false).slot ≠ (edits true).slot)

include hslots in
/-- One update has read all slots before the other one begins. -/
lemma run_missing (maps : PoolMaps) (who : Bool) :
    (start maps).run edits
        (List.replicate 16 who ++ (List.replicate 16 (!who) ++ [!who]) ++ [who]) =
      ⟨{ maps with slots := PoolEdit.applyBoth edits maps.slots },
        fun who => .writing ((edits who).apply maps.slots) (List.finRange 4099)⟩ := by
  have hself : who ≠ !who := Bool.self_ne_not _
  rw [run_append, run_append, run_reading_all rfl,
    run_storing (Function.update_of_ne hself.symm _ _)]
  simp only [run, List.foldl_cons, List.foldl_nil, turn, Function.update_of_ne hself,
    Function.update_self, UpdatePhase.access, UpdatePhase.next, Updates.mk.injEq, start]
  refine ⟨?_, update_both _ (fun who => .writing ((edits who).apply maps.slots) _) who⟩
  rw [PoolEdit.applyBoth_eq hslots (!who), Bool.not_not]

include hslots in
/-- The whole of one update runs between the reads and the writes of the other one, which leaves its
own table. -/
lemma run_overtaken (maps : PoolMaps) (who : Bool) :
    (start maps).run edits (List.replicate 16 who ++ List.replicate 4116 (!who) ++
        List.replicate 4100 who) =
      ⟨⟨PoolEdit.applyBoth edits maps.slots, buildTable ((edits who).apply maps.slots).toList⟩,
        fun who => .writing ((edits who).apply maps.slots) []⟩ := by
  have hother : (!who) ≠ who := Bool.not_ne_self _
  rw [run_append, run_append, run_reading_all rfl, run_whole (Function.update_of_ne hother _ _),
    run_rest ((Function.update_of_ne hother.symm _ _).trans (Function.update_self ..))]
  simp only [start, Updates.mk.injEq, PoolMaps.mk.injEq, and_true]
  refine ⟨?_, update_both _ (fun who => .writing ((edits who).apply maps.slots) _) who⟩
  rw [PoolEdit.applyBoth_eq hslots (!who), Bool.not_not]

include hslots in
/-- One update begins when the other one has written its slot. -/
lemma run_seeing {who : Bool} (hmissing : tables who = (edits who).apply maps.slots)
    (hseeing : tables (!who) = PoolEdit.applyBoth edits maps.slots) :
    (start maps).run edits
        (List.replicate 16 who ++ [who] ++ (List.replicate 16 (!who) ++ [!who])) =
      ⟨{ maps with slots := PoolEdit.applyBoth edits maps.slots },
        fun who => .writing (tables who) (List.finRange 4099)⟩ := by
  have hother : (!who) ≠ who := Bool.not_ne_self _
  have hphases := update_both (start maps).phase
    (fun who => .writing (tables who) (List.finRange 4099)) (!who)
  rw [Bool.not_not, hmissing, hseeing] at hphases
  rw [run_append, run_storing (s := start maps) rfl, run_storing (Function.update_of_ne hother _ _),
    PoolEdit.applyBoth_eq hslots who, ← hphases, PoolEdit.applyBoth_eq hslots who]
  rfl

include hslots in
/-- Any two tables can be the ones that are written, as long as one has missed the other edit. -/
lemma exists_run_writing {who : Bool} (hmissing : tables who = (edits who).apply maps.slots)
    (hother : tables (!who) = (edits (!who)).apply maps.slots ∨
      tables (!who) = PoolEdit.applyBoth edits maps.slots) :
    ∃ turns, (start maps).run edits turns =
      ⟨{ maps with slots := PoolEdit.applyBoth edits maps.slots },
        fun who => .writing (tables who) (List.finRange 4099)⟩ := by
  rcases hother with hmissing' | hseeing
  · obtain rfl : tables = fun who => (edits who).apply maps.slots :=
      funext ((Bool.forall_bool' who).2 ⟨hmissing, hmissing'⟩)
    exact ⟨_, run_missing hslots maps who⟩
  · exact ⟨_, run_seeing hslots hmissing hseeing⟩

include hslots in
/-- For every mixture of the two there is a schedule. -/
lemma exists_run_finished {who : Bool} {t : Maglev.Table}
    (hmissing : tables who = (edits who).apply maps.slots)
    (hother : tables (!who) = (edits (!who)).apply maps.slots ∨
      tables (!who) = PoolEdit.applyBoth edits maps.slots)
    (hentries : ∀ i : Fin 4099, ∃ who, t.get i = (buildTable (tables who).toList).get i) :
    ∃ turns, (start maps).run edits turns =
      ⟨⟨PoolEdit.applyBoth edits maps.slots, t⟩, fun who => .writing (tables who) []⟩ := by
  choose last hlast using hentries
  obtain ⟨turns, hturns⟩ := exists_run_writing hslots hmissing hother
  refine ⟨turns ++ (List.finRange 4099).flatMap fun i => [!last i, last i], ?_⟩
  rw [run_append, hturns, run_alternating hlast, copyOver_finRange]

include hslots in
/-- Every mixture of two tables comes about, each built after an edit that missed or saw the other
one. -/
lemma exists_run_mixture {t : Maglev.Table}
    (htables : ∀ who, tables who = (edits who).apply maps.slots ∨
      tables who = PoolEdit.applyBoth edits maps.slots)
    (hentries : ∀ i : Fin 4099, ∃ who, t.get i = (buildTable (tables who).toList).get i) :
    ∃ tables : Bool → SlotTable, ∃ turns, (start maps).run edits turns =
      ⟨⟨PoolEdit.applyBoth edits maps.slots, t⟩, fun who => .writing (tables who) []⟩ := by
  by_cases hmissing : ∃ who, tables who = (edits who).apply maps.slots
  · obtain ⟨who, hwho⟩ := hmissing
    exact ⟨tables, exists_run_finished hslots hwho (htables _) hentries⟩
  -- no two updates see each other, but one that sees the first one and runs last leaves the same
  · have hboth : ∀ who, tables who = PoolEdit.applyBoth edits maps.slots :=
      fun who => (htables who).resolve_left fun h => hmissing ⟨who, h⟩
    let tables' := Function.update tables false ((edits false).apply maps.slots)
    have hfirst : tables' false = (edits false).apply maps.slots := Function.update_self ..
    have hsecond : tables' true = PoolEdit.applyBoth edits maps.slots :=
      (Function.update_of_ne (by decide) _ _).trans (hboth true)
    refine ⟨tables', exists_run_finished hslots hfirst (.inr hsecond) fun i => ⟨true, ?_⟩⟩
    obtain ⟨who, hwho⟩ := hentries i
    rw [hwho, hboth, hsecond]

end Updates

/-! ### Outcomes -/

namespace PoolEdit

variable (edits : Bool → PoolEdit)

/-- Two updates that run at the same time, in some order of their accesses, can leave these maps. -/
def CanLeave (maps after : PoolMaps) : Prop :=
  ∃ turns, let s := (Overlap.mk maps fun who => (edits who).script).run turns
    s.Finished ∧ s.maps = after

variable {edits} {maps after : PoolMaps} (hslots : (edits false).slot ≠ (edits true).slot)

include hslots in
lemma canLeave_iff : CanLeave edits maps after ↔
    after.slots = applyBoth edits maps.slots ∧ ∃ tables : Bool → SlotTable,
      (∀ who, tables who = (edits who).apply maps.slots ∨
        tables who = applyBoth edits maps.slots) ∧
      ∀ i : Fin 4099, ∃ who, after.maglev.get i = (buildTable (tables who).toList).get i := by
  constructor
  · rintro ⟨turns, hfinished, rfl⟩
    rw [← Updates.overlap_start, ← Updates.overlap_run] at hfinished ⊢
    exact ((Updates.Sound.start maps).run hslots turns).finished hslots hfinished
  · rintro ⟨hafter, tables, htables, hentries⟩
    obtain ⟨tables', turns, hturns⟩ := Updates.exists_run_mixture hslots htables hentries
    refine ⟨turns, ?_⟩
    rw [← Updates.overlap_start, ← Updates.overlap_run, hturns, ← hafter]
    exact ⟨fun _ => rfl, rfl⟩

/-! ### When the look-up table is sure to be that of the slots -/

/-- A slot is usable if and only if the look-up table names it. -/
lemma isUsable_iff_owned_pos (table : SlotTable) (i : Fin 16) :
    (table.get i).isUsable = true ↔ 0 < (buildTable table.toList).owned i := by
  have hnumbered : Maglev.Numbered table.toList :=
    Maglev.numbered_of_length_lt (by rw [Vector.length_toList]; decide)
  have hfew : (table.toList.findIdxs Backend.isUsable).length ≤ maglevSize := by
    rw [List.length_findIdxs]
    refine List.countP_le_length.trans ?_
    rw [Vector.length_toList]
    decide
  rw [Maglev.owned_pos_iff hnumbered hfew, List.mem_findIdxs_iff_exists_getElem_pos]
  have hlt : (i : ℕ) < table.toList.length := by
    rw [Vector.length_toList]
    exact i.isLt
  rw [exists_prop_of_true hlt, Vector.getElem_toList]
  rfl

/-- Only tables with the same usable slots have the same look-up table. -/
lemma isUsable_eq_of_buildTable_eq {table table' : SlotTable}
    (h : buildTable table.toList = buildTable table'.toList) (i : Fin 16) :
    (table.get i).isUsable = (table'.get i).isUsable := by
  rw [Bool.eq_iff_iff, isUsable_iff_owned_pos, isUsable_iff_owned_pos, h]

include hslots in
/-- The last update to finish may leave its own table although it has missed the other edit. -/
lemma canLeave_overtaken (maps : PoolMaps) (who : Bool) :
    CanLeave edits maps
      ⟨applyBoth edits maps.slots, buildTable ((edits who).apply maps.slots).toList⟩ := by
  rw [canLeave_iff hslots]
  refine ⟨rfl, fun who => (edits who).apply maps.slots, fun _ => .inl rfl, fun _ => ⟨who, ?_⟩⟩
  dsimp only

include hslots in
lemma consistent_iff : (∀ after, CanLeave edits maps after →
      after.maglev = buildTable after.slots.toList) ↔
    ∀ who, buildTable ((edits who).apply maps.slots).toList =
      buildTable (applyBoth edits maps.slots).toList := by
  constructor
  · intro h who
    simpa only using h _ (canLeave_overtaken hslots maps who)
  · intro h after hafter
    obtain ⟨hboth, tables, htables, hentries⟩ := (canLeave_iff hslots).1 hafter
    have hentry : ∀ i : Fin 4099, after.maglev.get i = (buildTable after.slots.toList).get i := by
      intro i
      obtain ⟨who, hwho⟩ := hentries i
      rcases htables who with hmissing | hseeing
      · rw [hwho, hmissing, h who, hboth]
      · rw [hwho, hseeing, hboth]
    exact Vector.ext fun i hi => hentry ⟨i, hi⟩

/-- **What two updates of different slots leave** when they run at the same time.  The slots hold
both edits.  The look-up table can be any mixture of two tables, each built after an edit that has
missed or seen the other one, and it can be no other.  So it is sure to be that of the slots if and
only if it makes no difference to it whether one or both edits are made, and it is not if an edit
changes whether its slot is usable. -/
theorem updates_leave (maps : PoolMaps) (hslots : (edits false).slot ≠ (edits true).slot) :
    (∀ after, CanLeave edits maps after ↔
      after.slots = applyBoth edits maps.slots ∧ ∃ tables : Bool → SlotTable,
        (∀ who, tables who = (edits who).apply maps.slots ∨
          tables who = applyBoth edits maps.slots) ∧
        ∀ i : Fin 4099, ∃ who, after.maglev.get i = (buildTable (tables who).toList).get i) ∧
    ((∀ after, CanLeave edits maps after → after.maglev = buildTable after.slots.toList) ↔
      ∀ who, buildTable ((edits who).apply maps.slots).toList =
        buildTable (applyBoth edits maps.slots).toList) ∧
    ((∃ who, (edits who).content.isUsable ≠ (maps.slots.get (edits who).slot).isUsable) →
      ∃ after, CanLeave edits maps after ∧ after.maglev ≠ buildTable after.slots.toList) := by
  refine ⟨fun after => canLeave_iff hslots, consistent_iff hslots, ?_⟩
  rintro ⟨who, hwho⟩
  by_contra hnone
  have hconsistent := (consistent_iff hslots).1 fun after hafter =>
    not_not.1 fun hne => hnone ⟨after, hafter, hne⟩
  -- the other update would have to write the same table without the edit
  have husable := isUsable_eq_of_buildTable_eq (hconsistent (!who)) (edits who).slot
  rw [getElem_apply_of_ne _ _ (slot_not_ne hslots who).symm,
    getElem_applyBoth_self hslots] at husable
  exact hwho husable.symm

/-- New weights for two backends do not touch the look-up table, whichever update is overtaken. -/
theorem newWeights_keep_maglev :
    let first : Backend := { address := 0x0a000001, port := 5060, weight := 100, flags := 1 }
    let second : Backend := { address := 0x0a000002, port := 5060, weight := 100, flags := 1 }
    let slots : SlotTable := (SlotTable.empty.setIfInBounds 0 first).setIfInBounds 1 second
    let edits : Bool → PoolEdit
      | false => ⟨0, some { first with weight := 200 }, by decide⟩
      | true => ⟨1, some { second with weight := 200 }, by decide⟩
    (edits false).slot ≠ (edits true).slot ∧
      ∀ after, CanLeave edits ⟨slots, buildTable slots.toList⟩ after →
        after.maglev = buildTable after.slots.toList := by
  intro first second slots edits
  have hslots : (edits false).slot ≠ (edits true).slot := by decide
  obtain ⟨-, hconsistent, -⟩ := updates_leave ⟨slots, buildTable slots.toList⟩ hslots
  have hclaimants : ∀ who, Maglev.claimants ((edits who).apply slots).toList =
      Maglev.claimants (applyBoth edits slots).toList := by
    intro who
    cases who with
    | false => decide +kernel
    | true => decide +kernel
  refine ⟨hslots, hconsistent.2 fun who => ?_⟩
  rw [buildTable, hclaimants who, ← buildTable]

/-- A slot is cleared, and meanwhile another one is filled: the update that clears the slot leaves
the blank table of an empty pool, although the pool has a backend again. -/
theorem staleClear_blanks_maglev :
    let first : Backend := { address := 0x0a000001, port := 5060, weight := 100, flags := 1 }
    let second : Backend := { address := 0x0a000002, port := 5060, weight := 100, flags := 1 }
    let slots : SlotTable := SlotTable.empty.setIfInBounds 0 first
    let edits : Bool → PoolEdit
      | false => ⟨0, none, by decide⟩
      | true => ⟨1, some second, by decide⟩
    let s := (Overlap.mk ⟨slots, buildTable slots.toList⟩ fun who => (edits who).script).run
      (List.replicate 16 false ++ List.replicate 4116 true ++ List.replicate 4100 false)
    s.Finished ∧ s.maps.slots = SlotTable.empty.setIfInBounds 1 second ∧
      s.maps.maglev = Maglev.Table.blank ∧ s.maps.maglev ≠ buildTable s.maps.slots.toList := by
  intro first second slots edits s
  have hslots : (edits false).slot ≠ (edits true).slot := by decide
  have hcleared : (edits false).apply slots = SlotTable.empty := by decide +kernel
  have hboth : applyBoth edits slots = SlotTable.empty.setIfInBounds 1 second := by decide +kernel
  have hblank : buildTable SlotTable.empty.toList = Maglev.Table.blank :=
    Maglev.buildTable_eq_blank (by decide)
  have hrun := Updates.run_overtaken hslots ⟨slots, buildTable slots.toList⟩ false
  have hs : s = (Updates.mk ⟨SlotTable.empty.setIfInBounds 1 second, Maglev.Table.blank⟩
      fun who => .writing ((edits who).apply slots) []).overlap edits := by
    rw [← hboth, ← hblank, ← hcleared, ← hrun, Updates.overlap_run, Updates.overlap_start]
    rfl
  rw [hs]
  refine ⟨fun _ => rfl, rfl, rfl, fun hsame => ?_⟩
  have husable := isUsable_eq_of_buildTable_eq (hblank.trans hsame) 1
  exact absurd husable (by decide)

end PoolEdit

end VoiceSteering
