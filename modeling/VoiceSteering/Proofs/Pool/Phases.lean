/-
# Phases of two updates

An update reads all slots into a copy, writes its slot, and then writes the look-up table of the
edited copy, entry by entry.  So an update on its way is known by what is left to read or to write
and by its copy.  Two updates of different slots can neither take back the edit of the other one nor
write anything but the entries of their own tables.
-/
import VoiceSteering.Proofs.Pool.Edit
import VoiceSteering.Proofs.Pool.Interleaving

namespace VoiceSteering

open VoiceSteering.Maglev (buildTable)

/-! ### Phases of an update -/

/-- How far an update has come. -/
inductive UpdatePhase where
  /-- Some slots are still to be read into the copy. -/
  | reading (left : List (Fin 16)) (copy : SlotTable)
  /-- The slot is written, and some entries of the look-up table of `table` are still to be. -/
  | writing (table : SlotTable) (left : List (Fin 4099))

namespace UpdatePhase

section Access

variable (e : PoolEdit)

/-- What is left of the update. -/
def script : UpdatePhase → PoolScript Unit
  | reading left copy => (PoolScript.readSlots left copy).andThen e.store
  | writing table left => PoolScript.writeEntries (buildTable table.toList) left

/-- The phase after an access to slots. -/
def next (slots : SlotTable) : UpdatePhase → UpdatePhase
  | reading [] copy => writing (e.apply copy) (List.finRange 4099)
  | reading (⟨i, _⟩ :: left) copy => reading left (copy.set i slots[i])
  | writing table left => writing table left.tail

/-- The maps after the access. -/
def access (maps : PoolMaps) : UpdatePhase → PoolMaps
  | reading [] _ => { maps with slots := e.apply maps.slots }
  | reading (_ :: _) _ => maps
  | writing _ [] => maps
  | writing table (⟨i, _⟩ :: _) =>
    { maps with maglev := maps.maglev.set i (buildTable table.toList)[i] }

lemma step_script (phase : UpdatePhase) (maps : PoolMaps) :
    (phase.script e).step maps = ((phase.next e maps.slots).script e, phase.access e maps) := by
  match phase with
  | reading [] _ => rfl
  | reading (_ :: _) _ => rfl
  | writing _ [] => rfl
  | writing _ (_ :: _) => rfl

lemma script_eq_done_iff {phase : UpdatePhase} :
    phase.script e = .done () ↔ ∃ table, phase = writing table [] := by
  constructor
  · intro h
    cases phase with
    | reading left copy => cases left <;> cases h
    | writing table left =>
      cases left with
      | nil => exact ⟨table, rfl⟩
      | cons i left => cases h
  · rintro ⟨table, rfl⟩
    rfl

lemma slots_access (phase : UpdatePhase) (maps : PoolMaps) :
    (phase.access e maps).slots = maps.slots ∨
      (phase.access e maps).slots = e.apply maps.slots := by
  match phase with
  | reading [] _ => exact .inr rfl
  | reading (_ :: _) _ => exact .inl rfl
  | writing _ [] => exact .inl rfl
  | writing _ (_ :: _) => exact .inl rfl

end Access

/-- The slots whose look-up table is being written. -/
def table? : UpdatePhase → Option SlotTable
  | reading _ _ => none
  | writing table _ => some table

/-- The update has written an entry of its look-up table. -/
def HasWritten (i : Fin 4099) : UpdatePhase → Prop
  | reading _ _ => False
  | writing _ left => i ∉ left

/-- The next access writes an entry of the look-up table. -/
def Writes (i : Fin 4099) (phase : UpdatePhase) : Prop :=
  ∃ table left, phase = writing table (i :: left)

variable {e : PoolEdit} {phase : UpdatePhase} {maps : PoolMaps} {slots : SlotTable} {i : Fin 4099}

lemma table?_next {table : SlotTable} (h : phase.table? = some table) :
    (phase.next e slots).table? = some table := by
  cases phase with
  | reading left copy => exact absurd h (by simp [table?])
  | writing table' left => exact h

lemma HasWritten.of_next (h : (phase.next e slots).HasWritten i) (hnext : ¬ phase.Writes i) :
    phase.HasWritten i := by
  match phase with
  | reading [] _ => exact h (List.mem_finRange i)
  | reading (_ :: _) _ => exact h
  | writing _ [] => exact h
  | writing table (j :: left) =>
    refine fun hmem => (List.mem_cons.1 hmem).elim ?_ h
    rintro rfl
    exact hnext ⟨table, left, rfl⟩

lemma getElem_maglev_access (hnext : ¬ phase.Writes i) :
    (phase.access e maps).maglev.get i = maps.maglev.get i := by
  match phase with
  | reading [] _ => rfl
  | reading (_ :: _) _ => rfl
  | writing _ [] => rfl
  | writing table (j :: left) =>
    refine Vector.getElem_set_ne j.isLt i.isLt fun heq => ?_
    obtain rfl : j = i := Fin.ext heq
    exact hnext ⟨table, left, rfl⟩

variable (edits : Bool → PoolEdit) (before : SlotTable)

/-- What an update knows in a phase, the slots being `slots` now and `before` at the beginning. -/
def Sound (slots : SlotTable) (who : Bool) : UpdatePhase → Prop
  | reading left copy =>
    ∀ i ∉ left, copy.get i = before.get i ∨ copy.get i = (PoolEdit.applyBoth edits before).get i
  | writing table _ => slots.get (edits who).slot = (edits who).content ∧
    (table = (edits who).apply before ∨ table = PoolEdit.applyBoth edits before)

variable {edits before} {who other : Bool}
  (hslots : (edits false).slot ≠ (edits true).slot)
  (hbetween : PoolEdit.Between edits before maps.slots)

include hslots hbetween in
lemma Sound.next (h : phase.Sound edits before maps.slots who) :
    (phase.next (edits who) maps.slots).Sound edits before
      (phase.access (edits who) maps).slots who := by
  match phase with
  | reading [] copy =>
    -- nothing is left to read, so the whole copy is known
    have hcopy : PoolEdit.Between edits before copy := fun i => h i List.not_mem_nil
    exact ⟨PoolEdit.getElem_apply_self .., hcopy.apply_eq hslots who⟩
  | reading (j :: left) copy =>
    intro i hi
    rcases eq_or_ne i j with rfl | hne
    · have hread : (copy.set i maps.slots[i]).get i = maps.slots.get i :=
        Vector.getElem_set_self _
      exact (hbetween i).imp hread.trans hread.trans
    · have hread : (copy.set j maps.slots[j]).get i = copy.get i :=
        Vector.getElem_set_ne j.isLt i.isLt fun heq => hne (Fin.ext heq.symm)
      have hold := h i fun hmem => (List.mem_cons.1 hmem).elim hne hi
      exact hold.imp hread.trans hread.trans
  | writing _ [] => exact h
  | writing _ (_ :: _) => exact h

include hslots in
/-- No access of an update changes what the other one knows. -/
lemma Sound.access {phase' : UpdatePhase} (h : phase'.Sound edits before maps.slots other)
    (hne : other ≠ who) :
    phase'.Sound edits before (phase.access (edits who) maps).slots other := by
  cases phase' with
  | reading left copy => exact h
  | writing table left =>
    refine ⟨?_, h.2⟩
    rcases slots_access (edits who) phase maps with hkept | hedit
    · rw [hkept, h.1]
    · obtain rfl : other = !who := Bool.eq_not.2 hne
      rw [hedit, PoolEdit.getElem_apply_of_ne _ _ (PoolEdit.slot_not_ne hslots who), h.1]

end UpdatePhase

/-! ### Two updates -/

/-- Two updates, each partly done. -/
structure Updates where
  maps : PoolMaps
  phase : Bool → UpdatePhase

namespace Updates

variable (edits : Bool → PoolEdit)

/-- No update has made an access yet. -/
def start (maps : PoolMaps) : Updates :=
  ⟨maps, fun _ => .reading (List.finRange 16) SlotTable.empty⟩

/-- One of the updates makes its next access. -/
def turn (s : Updates) (who : Bool) : Updates :=
  ⟨(s.phase who).access (edits who) s.maps,
    Function.update s.phase who ((s.phase who).next (edits who) s.maps.slots)⟩

def run (s : Updates) (turns : List Bool) : Updates := turns.foldl (turn edits) s

/-- What is left of the updates. -/
def overlap (s : Updates) : Overlap := ⟨s.maps, fun who => (s.phase who).script (edits who)⟩

variable {edits} in
lemma phase_turn_self (s : Updates) (who : Bool) :
    (s.turn edits who).phase who = (s.phase who).next (edits who) s.maps.slots :=
  Function.update_self ..

variable {edits} in
lemma phase_turn_of_ne (s : Updates) {who other : Bool} (hne : other ≠ who) :
    (s.turn edits who).phase other = s.phase other :=
  Function.update_of_ne hne ..

lemma run_cons (s : Updates) (who : Bool) (turns : List Bool) :
    s.run edits (who :: turns) = (s.turn edits who).run edits turns := rfl

lemma run_append (s : Updates) (turns later : List Bool) :
    s.run edits (turns ++ later) = (s.run edits turns).run edits later :=
  List.foldl_append

lemma overlap_start (maps : PoolMaps) :
    (start maps).overlap edits = ⟨maps, fun who => (edits who).script⟩ := by
  simp only [overlap, start, UpdatePhase.script, PoolEdit.script_eq, PoolScript.list]

lemma overlap_turn (s : Updates) (who : Bool) :
    (s.turn edits who).overlap edits = (s.overlap edits).turn who := by
  rw [Overlap.turn_of_step (UpdatePhase.step_script (edits who) (s.phase who) s.maps)]
  simp only [overlap, turn, Overlap.mk.injEq, true_and]
  exact funext fun other =>
    Function.apply_update (fun who (phase : UpdatePhase) => phase.script (edits who)) ..

/-- Phases account for everything the scripts do. -/
lemma overlap_run (s : Updates) (turns : List Bool) :
    (s.run edits turns).overlap edits = (s.overlap edits).run turns := by
  induction turns generalizing s with
  | nil => rfl
  | cons who turns ih => exact (ih _).trans (by rw [overlap_turn]; rfl)

/-- What holds at any time: no slot holds anything but its first content or an edit, and every entry
of the look-up table that has been written comes from one of the updates. -/
structure Sound (before : SlotTable) (s : Updates) : Prop where
  slots : PoolEdit.Between edits before s.maps.slots
  phases : ∀ who, (s.phase who).Sound edits before s.maps.slots who
  entries : ∀ i, (∃ who, (s.phase who).HasWritten i) → ∃ who table,
    (s.phase who).table? = some table ∧ s.maps.maglev.get i = (buildTable table.toList).get i

namespace Sound

variable {edits} {before : SlotTable} {s : Updates}
  (hslots : (edits false).slot ≠ (edits true).slot)

lemma start (maps : PoolMaps) : (start maps).Sound edits maps.slots where
  slots := .refl
  phases _ i hi := absurd (List.mem_finRange i) hi
  entries _ h := h.elim fun _ hwritten => hwritten.elim

lemma entries_turn (h : s.Sound edits before) (who : Bool) (i : Fin 4099)
    (hwritten : ∃ other, ((s.turn edits who).phase other).HasWritten i) :
    ∃ other table, ((s.turn edits who).phase other).table? = some table ∧
      (s.turn edits who).maps.maglev.get i = (buildTable table.toList).get i := by
  by_cases hwrites : (s.phase who).Writes i
  -- the entry is the one that is written now
  · obtain ⟨table, left, hphase⟩ := hwrites
    refine ⟨who, table, ?_, ?_⟩
    · rw [phase_turn_self, hphase]
      rfl
    · rw [turn, hphase]
      exact Vector.getElem_set_self _
  -- or it was written before, and by an update that still writes the same table
  · have hold : ∃ other, (s.phase other).HasWritten i := by
      obtain ⟨other, hother⟩ := hwritten
      refine ⟨other, ?_⟩
      rcases eq_or_ne other who with rfl | hne
      · rw [phase_turn_self] at hother
        exact hother.of_next hwrites
      · rwa [phase_turn_of_ne s hne] at hother
    obtain ⟨other, table, htable, hentry⟩ := h.entries i hold
    refine ⟨other, table, ?_, ?_⟩
    · rcases eq_or_ne other who with rfl | hne
      · rw [phase_turn_self]
        exact UpdatePhase.table?_next htable
      · rwa [phase_turn_of_ne s hne]
    · rw [← hentry]
      exact UpdatePhase.getElem_maglev_access hwrites

include hslots in
lemma turn (h : s.Sound edits before) (who : Bool) : (s.turn edits who).Sound edits before where
  slots := by
    rcases UpdatePhase.slots_access (edits who) (s.phase who) s.maps with hkept | hedit
    · exact fun i => by rw [Updates.turn, hkept]; exact h.slots i
    · exact fun i => by rw [Updates.turn, hedit]; exact h.slots.edit hslots who i
  phases := by
    intro other
    rcases eq_or_ne other who with rfl | hne
    · rw [phase_turn_self]
      exact (h.phases other).next hslots h.slots
    · rw [phase_turn_of_ne s hne]
      exact (h.phases other).access hslots hne
  entries := h.entries_turn who

include hslots in
lemma run (h : s.Sound edits before) (turns : List Bool) :
    (s.run edits turns).Sound edits before := by
  induction turns generalizing s with
  | nil => exact h
  | cons who turns ih => exact ih (h.turn hslots who)

include hslots in
/-- Once both updates have come to their ends, both edits are made, and every entry comes from one
of two tables, each built after an edit that missed or saw the other one. -/
lemma finished (h : s.Sound edits before) (hfinished : (s.overlap edits).Finished) :
    s.maps.slots = PoolEdit.applyBoth edits before ∧
      ∃ tables : Bool → SlotTable,
        (∀ who, tables who = (edits who).apply before ∨
          tables who = PoolEdit.applyBoth edits before) ∧
        ∀ i : Fin 4099, ∃ who, s.maps.maglev.get i = (buildTable (tables who).toList).get i := by
  have hphase : ∀ who, ∃ table, s.phase who = .writing table [] :=
    fun who => (UpdatePhase.script_eq_done_iff (edits who)).1 (hfinished who)
  choose tables htables using hphase
  have hsound : ∀ who, s.maps.slots.get (edits who).slot = (edits who).content ∧
      (tables who = (edits who).apply before ∨ tables who = PoolEdit.applyBoth edits before) := by
    intro who
    have := h.phases who
    rwa [htables who] at this
  refine ⟨h.slots.eq_applyBoth hslots fun who => (hsound who).1, tables,
    fun who => (hsound who).2, fun i => ?_⟩
  -- either update has written every entry
  have hwritten : ∃ who, (s.phase who).HasWritten i :=
    ⟨false, by rw [htables]; exact List.not_mem_nil⟩
  obtain ⟨who, table, htable, hentry⟩ := h.entries i hwritten
  rw [htables, UpdatePhase.table?, Option.some_inj] at htable
  exact ⟨who, by rw [hentry, htable]⟩

end Sound

end Updates

end VoiceSteering
