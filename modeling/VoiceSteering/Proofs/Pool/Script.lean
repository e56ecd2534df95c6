/-
# Operations on a pool that run alone

When no access is refused and nothing runs in between, a script of single reads and writes comes
down to one step: listing returns the slots, replacing leaves the given slots with the look-up table
of exactly these slots, and an update does the same for the edited slots or, if the edit is not
allowed, changes nothing.
-/
import Mathlib.Tactic.Common
import VoiceSteering.Pool.Script

namespace VoiceSteering

open VoiceSteering.Maglev (buildTable)

/-! ### Element by element -/

section CopyOver

variable {α : Type} {n : ℕ}

/-- Copies the elements at some indices from one vector to another, one after the other. -/
def copyOver (source : Vector α n) (indices : List (Fin n)) (target : Vector α n) : Vector α n :=
  indices.foldl (fun v (i : Fin n) => v.set i source[i]) target

lemma copyOver_cons (source : Vector α n) (i : Fin n) (indices : List (Fin n))
    (target : Vector α n) :
    copyOver source (i :: indices) target = copyOver source indices (target.set i source[i]) := rfl

lemma getElem_copyOver_of_notMem (source : Vector α n) {indices : List (Fin n)}
    (target : Vector α n) {i : Fin n} (hi : i ∉ indices) :
    (copyOver source indices target)[i] = target[i] := by
  induction indices generalizing target with
  | nil => rfl
  | cons j indices ih =>
    rw [List.mem_cons, not_or] at hi
    have hne : (j : ℕ) ≠ i := fun h => hi.1 (Fin.ext h.symm)
    rw [copyOver_cons, ih _ hi.2]
    exact Vector.getElem_set_ne _ _ hne

lemma getElem_copyOver_of_mem (source : Vector α n) {indices : List (Fin n)}
    (target : Vector α n) {i : Fin n} (hi : i ∈ indices) :
    (copyOver source indices target)[i] = source[i] := by
  induction indices generalizing target with
  | nil => exact absurd hi (List.not_mem_nil)
  | cons j indices ih =>
    rw [copyOver_cons]
    -- the last write to an index decides
    by_cases hlater : i ∈ indices
    · exact ih _ hlater
    · obtain rfl : i = j := (List.mem_cons.1 hi).resolve_right hlater
      rw [getElem_copyOver_of_notMem _ _ hlater]
      exact Vector.getElem_set_self _

/-- Once every index has had its turn, the copy is complete. -/
lemma copyOver_finRange (source target : Vector α n) :
    copyOver source (List.finRange n) target = source := by
  refine Vector.ext fun i hi => ?_
  exact getElem_copyOver_of_mem source target (List.mem_finRange ⟨i, hi⟩)

end CopyOver

/-- An edit puts the backend, or the empty one, into its slot and changes no other. -/
lemma SlotTable.withSlot_eq_ok_iff {table edited : SlotTable} {slot : ℕ}
    {backend : Option Backend} :
    table.withSlot slot backend = .ok edited ↔
      (∀ b, backend = some b → b.address ≠ 0) ∧
        ∃ h : slot < 16, edited = table.set slot (backend.getD Backend.empty) := by
  by_cases hslot : slot < 16
  · cases backend with
    | none => simp [withSlot, hslot, eq_comm]
    | some b =>
      by_cases hb : b.address = 0
      · simp [withSlot, hslot, hb]
      · simp [withSlot, hslot, hb, eq_comm]
  · simp [withSlot, hslot]

/-- The table after an edit, unchanged by one that is not allowed. -/
def SlotTable.edited (table : SlotTable) (slot : ℕ) (backend : Option Backend) : SlotTable :=
  (table.withSlot slot backend).toOption.getD table

lemma SlotTable.getElem_edited_of_ne (table : SlotTable) {slot other : ℕ}
    (backend : Option Backend) (hne : slot ≠ other) (hother : other < 16) :
    (table.edited slot backend)[other] = table[other] := by
  rw [edited]
  cases hedit : table.withSlot slot backend with
  | error e => rfl
  | ok edited =>
    obtain ⟨-, hslot, rfl⟩ := withSlot_eq_ok_iff.1 hedit
    exact Vector.getElem_set_ne hslot hother hne

lemma SlotTable.getElem_edited_self (table : SlotTable) {slot : ℕ} {backend : Option Backend}
    (hslot : slot < 16) (hfilled : ∀ b, backend = some b → b.address ≠ 0) :
    (table.edited slot backend)[slot] = backend.getD Backend.empty := by
  have hedit : table.withSlot slot backend = .ok (table.set slot (backend.getD Backend.empty)) :=
    withSlot_eq_ok_iff.2 ⟨hfilled, hslot, rfl⟩
  rw [edited, hedit]
  exact Vector.getElem_set_self hslot

/-- An edit that would put the zero address into a slot is not allowed. -/
lemma SlotTable.edited_of_zero (table : SlotTable) (slot : ℕ) {b : Backend} (hb : b.address = 0) :
    table.edited slot (some b) = table := by
  rw [edited]
  cases hedit : table.withSlot slot (some b) with
  | error e => rfl
  | ok edited => exact absurd hb ((withSlot_eq_ok_iff.1 hedit).1 b rfl)

/-- The table after some edits, each of a slot by its number. -/
def SlotTable.editedAll (table : SlotTable) (edits : List (ℕ × Option Backend)) : SlotTable :=
  edits.foldl (fun table edit => table.edited edit.1 edit.2) table

/-- Edits of other slots do not matter, nor do those of the slot that are not allowed. -/
lemma SlotTable.getElem_editedAll_of_refused (table : SlotTable) {slot : ℕ} (hslot : slot < 16)
    {edits : List (ℕ × Option Backend)}
    (hedits : ∀ backend, (slot, backend) ∈ edits → ∃ b, backend = some b ∧ b.address = 0) :
    (table.editedAll edits)[slot] = table[slot] := by
  induction edits generalizing table with
  | nil => rfl
  | cons edit edits ih =>
    have hfirst : (table.edited edit.1 edit.2)[slot] = table[slot] := by
      rcases eq_or_ne edit.1 slot with rfl | hne
      · obtain ⟨b, hbackend, hb⟩ := hedits edit.2 (List.mem_cons_self ..)
        rw [hbackend, edited_of_zero table _ hb]
      · exact getElem_edited_of_ne table edit.2 hne hslot
    exact (ih _ fun backend hmem => hedits backend (List.mem_cons_of_mem _ hmem)).trans hfirst

/-- The last edit of a slot decides, among those that are allowed. -/
lemma SlotTable.getElem_editedAll (table : SlotTable) {slot : ℕ} (hslot : slot < 16)
    (earlier : List (ℕ × Option Backend)) {backend : Option Backend}
    {later : List (ℕ × Option Backend)} (hfilled : ∀ b, backend = some b → b.address ≠ 0)
    (hlater : ∀ backend, (slot, backend) ∈ later → ∃ b, backend = some b ∧ b.address = 0) :
    (table.editedAll (earlier ++ (slot, backend) :: later))[slot] = backend.getD Backend.empty := by
  have hsplit : table.editedAll (earlier ++ (slot, backend) :: later) =
      ((table.editedAll earlier).edited slot backend).editedAll later := List.foldl_append
  rw [hsplit, getElem_editedAll_of_refused _ hslot hlater]
  exact getElem_edited_self _ hslot hfilled

namespace PoolScript

variable {α β : Type}

/-- No access is refused. -/
def granted : PoolAccess → Option Failure := fun _ => none

/-! ### One script after another -/

lemma run_andThen (refusal : PoolAccess → Option Failure) (script : PoolScript α)
    (f : α → PoolScript β) (maps : PoolMaps) :
    (script.andThen f).run refusal maps =
      match script.run refusal maps with
      | (.ok a, maps) => (f a).run refusal maps
      | (.error e, maps) => (.error e, maps) := by
  induction script generalizing maps with
  | done a => rfl
  | fail e => rfl
  | readSlot slot next ih =>
    simp only [andThen, run]
    cases refusal (.readSlot slot) with
    | some e => rfl
    | none => exact ih maps.slots[slot] maps
  | writeSlot slot b next ih =>
    simp only [andThen, run]
    cases refusal (.writeSlot slot) with
    | some e => rfl
    | none => exact ih _
  | writeEntry index entry next ih =>
    simp only [andThen, run]
    cases refusal (.writeEntry index) with
    | some e => rfl
    | none => exact ih _

lemma run_bind_of_ok {refusal : PoolAccess → Option Failure} {script : PoolScript α}
    {maps maps' : PoolMaps} {a : α} (h : script.run refusal maps = (.ok a, maps'))
    (f : α → PoolScript β) : (script >>= f).run refusal maps = (f a).run refusal maps' := by
  have hrun := run_andThen refusal script f maps
  rwa [h] at hrun

/-! ### Single operations -/

lemma run_readSlots (slots : List (Fin 16)) (table : SlotTable) (maps : PoolMaps) :
    (readSlots slots table).run granted maps = (.ok (copyOver maps.slots slots table), maps) := by
  induction slots generalizing table with
  | nil => rfl
  | cons slot slots ih => exact ih _

lemma run_writeSlots (table : SlotTable) (slots : List (Fin 16)) (maps : PoolMaps) :
    (writeSlots table slots).run granted maps =
      (.ok (), { maps with slots := copyOver table slots maps.slots }) := by
  induction slots generalizing maps with
  | nil => rfl
  | cons slot slots ih => exact ih _

lemma run_writeEntries (t : Maglev.Table) (indices : List (Fin 4099)) (maps : PoolMaps) :
    (writeEntries t indices).run granted maps =
      (.ok (), { maps with maglev := copyOver t indices maps.maglev }) := by
  induction indices generalizing maps with
  | nil => rfl
  | cons index indices ih => exact ih _

lemma run_writeMaglev (table : SlotTable) (maps : PoolMaps) :
    (writeMaglev table).run granted maps =
      (.ok (), { maps with maglev := buildTable table.toList }) := by
  rw [writeMaglev, run_writeEntries, copyOver_finRange]

/-! ### Whole operations -/

/-- Listing returns the slots. -/
theorem run_list (maps : PoolMaps) : list.run granted maps = (.ok maps.slots, maps) := by
  rw [list, run_readSlots, copyOver_finRange]

/-- Replacing leaves the given slots and their look-up table. -/
theorem run_replace (table : SlotTable) (maps : PoolMaps) :
    (replace table).run granted maps = (.ok (), ⟨table, buildTable table.toList⟩) := by
  have hslots : (writeSlots table (List.finRange 16)).run granted maps =
      (.ok (), { maps with slots := table }) := by
    rw [run_writeSlots, copyOver_finRange]
  rw [replace, run_bind_of_ok hslots, run_writeMaglev]

/-- An update leaves the edited slots and their look-up table. -/
theorem run_update_of_ok {slot : ℕ} {backend : Option Backend} {maps : PoolMaps}
    {table : SlotTable} (hedit : maps.slots.withSlot slot backend = .ok table) :
    (update slot backend).run granted maps = (.ok (), ⟨table, buildTable table.toList⟩) := by
  obtain ⟨-, hslot, hset⟩ := SlotTable.withSlot_eq_ok_iff.1 hedit
  have htable : maps.slots.set slot table[slot] = table := by
    rw [hset, Vector.getElem_set_self]
  rw [update, run_bind_of_ok (run_list maps), hedit]
  dsimp only
  rw [dif_pos hslot, run]
  simp only [granted, htable]
  exact run_writeMaglev table ⟨table, maps.maglev⟩

/-- An update that is not allowed changes nothing. -/
theorem run_update_of_error {slot : ℕ} {backend : Option Backend} {maps : PoolMaps} {e : SlotError}
    (hedit : maps.slots.withSlot slot backend = .error e) :
    (update slot backend).run granted maps = (.error (.slot e), maps) := by
  rw [update, run_bind_of_ok (run_list maps), hedit]
  rfl

/-- Whether it is allowed or not, an update leaves the slots as the edit does. -/
theorem slots_run_update (slot : ℕ) (backend : Option Backend) (maps : PoolMaps) :
    ((update slot backend).run granted maps).2.slots = maps.slots.edited slot backend := by
  rw [SlotTable.edited]
  cases hedit : maps.slots.withSlot slot backend with
  | error e => rw [run_update_of_error hedit]; rfl
  | ok table => rw [run_update_of_ok hedit]; rfl

end PoolScript

end VoiceSteering
