/-
# Which backends can be placed

Every entry of a pool asks for one slot, by its number or else by its position in the list.  A layout
compares no numbers: it goes through the entries once, and takes a slot for taken when its record is
usable.  This comes to the same, because whatever was placed before is usable and nothing else is
(`Holds`).  So a layout succeeds exactly if all entries have addresses and ask for different slots of
the table, which then holds them and nothing else; and it fails with the fault of the first entry
that has one.
-/
import Mathlib.Data.List.Induction
import Mathlib.Data.List.Nodup
import VoiceSteering.Proofs.Config.Layout

namespace VoiceSteering.Config

/-- An entry in the slot that it asks for. -/
structure Placement where
  slot : ℕ
  entry : Entry
deriving DecidableEq, Repr

/-- The entries from a position on, each in the slot that it asks for. -/
def placementsFrom (position : ℕ) (entries : List Entry) : List Placement :=
  (entries.zipIdx position).map fun numbered => ⟨numbered.1.slotAt numbered.2, numbered.1⟩

/-- What the entries of a pool ask for. -/
def placements (c : Config) (pool : Pool) : List Placement := placementsFrom 0 (c.entries pool)

/-- What is wrong with a placement after some others. -/
def Placement.fault? (pool : Pool) (earlier : List Placement) (p : Placement) : Option Invalid :=
  if slotCount ≤ p.slot then some (.slotBeyondTable pool p.entry.address p.slot)
  else if p.entry.address = 0 then some (.zeroAddress pool p.slot)
  else if p.slot ∈ earlier.map Placement.slot then some (.slotTaken pool p.slot)
  else none

/-- What is wrong with the placement at a position of a list. -/
def faultAt? (pool : Pool) (ps : List Placement) (position : ℕ) : Option Invalid :=
  ps[position]?.bind (Placement.fault? pool (ps.take position))

/-- The fault of the first placement that has one. -/
def FirstFault (pool : Pool) (ps : List Placement) (err : Invalid) : Prop :=
  ∃ position, faultAt? pool ps position = some err ∧
    ∀ earlier < position, faultAt? pool ps earlier = none

/-- Placements that can all be made in one table. -/
structure Placeable (ps : List Placement) : Prop where
  in_table : ∀ p ∈ ps, p.slot < slotCount
  addressed : ∀ p ∈ ps, p.entry.address ≠ 0
  apart : (ps.map Placement.slot).Nodup

instance : DecidablePred Placeable := fun ps =>
  decidable_of_iff ((∀ p ∈ ps, p.slot < slotCount) ∧ (∀ p ∈ ps, p.entry.address ≠ 0) ∧
      (ps.map Placement.slot).Nodup)
    ⟨fun h => ⟨h.1, h.2.1, h.2.2⟩, fun h => ⟨h.in_table, h.addressed, h.apart⟩⟩

/-- A table holds the backends of some placements and no others. -/
structure Holds (table : SlotTable) (ps : List Placement) : Prop where
  placed : ∀ p ∈ ps, table[p.slot]? = some p.entry.toBackend
  others_empty : ∀ slot < slotCount, slot ∉ ps.map Placement.slot →
    table[slot]? = some Backend.empty
  usableCount_eq : table.usableCount = ps.length

variable {pool : Pool} {ps : List Placement} {p : Placement} {table : SlotTable} {err : Invalid}

/-! ### Faults -/

lemma Placement.fault?_eq_none_iff :
    p.fault? pool ps = none ↔
      p.slot < slotCount ∧ p.entry.address ≠ 0 ∧ p.slot ∉ ps.map Placement.slot := by
  rw [fault?]
  split
  · next hslot => simp [Nat.not_lt.2 hslot]
  · next hslot =>
    split
    · next haddress => simp [haddress]
    · next haddress => simp [Nat.not_le.1 hslot, haddress]

lemma placeable_nil : Placeable [] := ⟨by simp, by simp, List.nodup_nil⟩

lemma Placeable.concat (hplaceable : Placeable ps) (hfine : p.fault? pool ps = none) :
    Placeable (ps ++ [p]) := by
  obtain ⟨hslot, haddress, hfree⟩ := Placement.fault?_eq_none_iff.1 hfine
  constructor
  · exact List.forall_mem_append.2 ⟨hplaceable.in_table, List.forall_mem_singleton.2 hslot⟩
  · exact List.forall_mem_append.2 ⟨hplaceable.addressed, List.forall_mem_singleton.2 haddress⟩
  · rw [List.map_append]
    exact List.nodup_append_comm.2 (List.nodup_cons.2 ⟨hfree, hplaceable.apart⟩)

/-- None of the placements that can all be made has a fault. -/
lemma Placeable.faultAt?_eq_none (hplaceable : Placeable ps) (position : ℕ) :
    faultAt? pool ps position = none := by
  rw [faultAt?, Option.bind_eq_none_iff]
  intro p hp
  have hmem := List.mem_of_getElem? hp
  refine Placement.fault?_eq_none_iff.2
    ⟨hplaceable.in_table p hmem, hplaceable.addressed p hmem, ?_⟩
  -- the list is what stands before the position, then the placement, then the others
  obtain ⟨hposition, rfl⟩ := List.getElem?_eq_some_iff.1 hp
  have hapart := hplaceable.apart
  rw [← List.take_append_drop position ps, List.map_append, List.nodup_append] at hapart
  intro htaken
  refine hapart.2.2 _ htaken _ ?_ rfl
  rw [List.drop_eq_getElem_cons hposition]
  exact List.mem_map_of_mem List.mem_cons_self

lemma faultAt?_concat {position : ℕ} (hposition : position < ps.length) :
    faultAt? pool (ps ++ [p]) position = faultAt? pool ps position := by
  rw [faultAt?, faultAt?, List.getElem?_append_left hposition,
    List.take_append_of_le_length (Nat.le_of_lt hposition)]

lemma faultAt?_concat_length : faultAt? pool (ps ++ [p]) ps.length = p.fault? pool ps := by
  rw [faultAt?, List.getElem?_concat_length, List.take_left]
  rfl

/-- A placement with a fault is one of the list. -/
lemma lt_length_of_faultAt? {position : ℕ} (hfault : faultAt? pool ps position = some err) :
    position < ps.length := by
  obtain ⟨p, hp, -⟩ := Option.bind_eq_some_iff.1 hfault
  exact (List.getElem?_eq_some_iff.1 hp).1

lemma FirstFault.concat (hfirst : FirstFault pool ps err) : FirstFault pool (ps ++ [p]) err := by
  obtain ⟨position, hfault, hearlier⟩ := hfirst
  have hposition := lt_length_of_faultAt? hfault
  refine ⟨position, ?_, fun earlier hlt => ?_⟩
  · rw [faultAt?_concat hposition, hfault]
  · rw [faultAt?_concat (Nat.lt_trans hlt hposition), hearlier earlier hlt]

/-- There is one first fault at most. -/
lemma FirstFault.unique {err' : Invalid} (hfirst : FirstFault pool ps err)
    (hfirst' : FirstFault pool ps err') : err = err' := by
  obtain ⟨position, hfault, hearlier⟩ := hfirst
  obtain ⟨position', hfault', hearlier'⟩ := hfirst'
  obtain hlt | rfl | hlt := Nat.lt_trichotomy position position'
  · rw [hearlier' position hlt] at hfault
    exact absurd hfault (by simp)
  · exact Option.some_inj.1 (hfault.symm.trans hfault')
  · rw [hearlier position' hlt] at hfault'
    exact absurd hfault' (by simp)

/-! ### Placing one entry after others -/

lemma holds_nil : Holds SlotTable.empty [] := by
  refine ⟨by simp, fun slot hslot _ => ?_, rfl⟩
  exact Vector.getElem?_replicate.trans (if_pos hslot)

/-- A slot is usable exactly if something has been placed in it. -/
lemma Holds.isUsable_iff (hholds : Holds table ps) (hplaceable : Placeable ps) {slot : ℕ}
    (hslot : slot < 16) : table[slot].isUsable = true ↔ slot ∈ ps.map Placement.slot := by
  constructor
  · intro husable
    by_contra hfree
    have hempty := hholds.others_empty slot hslot hfree
    rw [Vector.getElem?_eq_getElem hslot, Option.some_inj] at hempty
    rw [hempty] at husable
    exact absurd husable (by decide)
  · intro htaken
    obtain ⟨p, hp, rfl⟩ := List.mem_map.1 htaken
    have hplaced := hholds.placed p hp
    rw [Vector.getElem?_eq_getElem hslot, Option.some_inj] at hplaced
    rw [hplaced]
    exact Entry.isUsable_toBackend (hplaceable.addressed p hp)

lemma usableCount_set {slot : ℕ} (hslot : slot < 16) {b : Backend}
    (hfree : table[slot].isUsable = false) (husable : b.isUsable = true) :
    SlotTable.usableCount (table.set slot b) = table.usableCount + 1 := by
  rw [SlotTable.usableCount, SlotTable.usableCount, Vector.countP_toList, Vector.countP_toList,
    Vector.countP_set, hfree, husable]
  rfl

lemma Holds.set (hholds : Holds table ps) (hslot : p.slot < 16)
    (hused : table[p.slot].isUsable = false) (hfree : p.slot ∉ ps.map Placement.slot)
    (haddress : p.entry.address ≠ 0) : Holds (table.set p.slot p.entry.toBackend) (ps ++ [p]) := by
  refine ⟨List.forall_mem_append.2 ⟨fun q hq => ?_, ?_⟩, fun slot hlt hother => ?_, ?_⟩
  · have hne : p.slot ≠ q.slot := fun heq => hfree (heq ▸ List.mem_map_of_mem hq)
    rw [Vector.getElem?_set_ne hslot hne, hholds.placed q hq]
  · exact List.forall_mem_singleton.2 (Vector.getElem?_set_self hslot)
  · rw [List.map_append, List.mem_append, not_or, List.map_singleton, List.mem_singleton] at hother
    rw [Vector.getElem?_set_ne hslot (Ne.symm hother.2), hholds.others_empty slot hlt hother.1]
  · rw [usableCount_set hslot hused (Entry.isUsable_toBackend haddress), hholds.usableCount_eq,
      List.length_append, List.length_singleton]

/-- An entry without a fault gets its slot. -/
lemma Holds.place_of_fine (hholds : Holds table ps) (hplaceable : Placeable ps)
    (hfine : p.fault? pool ps = none) :
    ∃ table', place pool table p.slot p.entry = .ok table' ∧ Holds table' (ps ++ [p]) := by
  obtain ⟨hslot, haddress, hfree⟩ := Placement.fault?_eq_none_iff.1 hfine
  have hused : table[p.slot].isUsable = false :=
    Bool.eq_false_iff.2 fun husable => hfree ((hholds.isUsable_iff hplaceable hslot).1 husable)
  exact ⟨_, place_eq_ok_iff.2 ⟨hslot, haddress, hused, rfl⟩,
    hholds.set hslot hused hfree haddress⟩

/-- A fault is the error of the layout. -/
lemma Holds.place_of_fault (hholds : Holds table ps) (hplaceable : Placeable ps)
    (hfault : p.fault? pool ps = some err) : place pool table p.slot p.entry = .error err := by
  rw [Placement.fault?] at hfault
  rw [place]
  by_cases hbeyond : slotCount ≤ p.slot
  · have hslot : ¬p.slot < 16 := Nat.not_lt.2 hbeyond
    rw [if_pos hbeyond, Option.some_inj] at hfault
    rw [dif_neg hslot, hfault]
  · have hslot : p.slot < 16 := Nat.not_le.1 hbeyond
    rw [if_neg hbeyond] at hfault
    rw [dif_pos hslot]
    by_cases haddress : p.entry.address = 0
    · rw [if_pos haddress, Option.some_inj] at hfault
      rw [if_pos haddress, hfault]
    · rw [if_neg haddress] at hfault
      obtain ⟨htaken, hfault⟩ := Option.ite_none_right_eq_some.1 hfault
      rw [if_neg haddress, if_pos ((hholds.isUsable_iff hplaceable hslot).2 htaken),
        Option.some_inj.1 hfault]

/-! ### Placing all entries -/

/-- Makes placements in an empty table, up to the first one that cannot be made. -/
def placeAll (pool : Pool) (ps : List Placement) : Except Invalid SlotTable :=
  ps.foldlM (fun table p => place pool table p.slot p.entry) SlotTable.empty

lemma placeAll_concat :
    placeAll pool (ps ++ [p]) =
      placeAll pool ps >>= fun table => place pool table p.slot p.entry := by
  rw [placeAll, List.foldlM_append]
  simp only [List.foldlM_cons, List.foldlM_nil, bind_pure]
  rfl

/-- Either all placements are made or the first fault is the error. -/
lemma placeAll_cases (pool : Pool) (ps : List Placement) :
    (∃ table, placeAll pool ps = .ok table ∧ Placeable ps ∧ Holds table ps) ∨
      ∃ err, placeAll pool ps = .error err ∧ FirstFault pool ps err := by
  -- the last placement sees the table of all the others
  induction ps using List.reverseRecOn with
  | nil => exact .inl ⟨SlotTable.empty, rfl, placeable_nil, holds_nil⟩
  | append_singleton ps p ih =>
    rw [placeAll_concat]
    obtain ⟨table, hok, hplaceable, hholds⟩ | ⟨err, herror, hfirst⟩ := ih
    · rw [hok]
      cases hfault : p.fault? pool ps with
      | none =>
        obtain ⟨table', hplace, hholds'⟩ := hholds.place_of_fine hplaceable hfault
        exact .inl ⟨table', hplace, hplaceable.concat hfault, hholds'⟩
      | some err =>
        refine .inr ⟨err, hholds.place_of_fault hplaceable hfault, ps.length, ?_, ?_⟩
        · rw [faultAt?_concat_length, hfault]
        · intro earlier hlt
          rw [faultAt?_concat hlt, hplaceable.faultAt?_eq_none]
    · rw [herror]
      exact .inr ⟨err, rfl, hfirst.concat⟩

/-- Placing succeeds exactly if all placements can be made. -/
lemma exists_placeAll_eq_ok_iff : (∃ table, placeAll pool ps = .ok table) ↔ Placeable ps := by
  obtain ⟨table, hok, hplaceable, -⟩ | ⟨err, herror, position, hfault, -⟩ := placeAll_cases pool ps
  · exact ⟨fun _ => hplaceable, fun _ => ⟨table, hok⟩⟩
  · constructor
    · rintro ⟨table, hok⟩
      exact absurd (herror.symm.trans hok) (by simp)
    · intro hplaceable
      rw [hplaceable.faultAt?_eq_none] at hfault
      exact absurd hfault (by simp)

lemma holds_of_placeAll (hok : placeAll pool ps = .ok table) : Holds table ps := by
  obtain ⟨table', hok', -, hholds⟩ | ⟨err, herror, -⟩ := placeAll_cases pool ps
  · rwa [Except.ok.inj (hok.symm.trans hok')]
  · exact absurd (herror.symm.trans hok) (by simp)

/-- Placing fails with the first fault. -/
lemma placeAll_eq_error_iff : placeAll pool ps = .error err ↔ FirstFault pool ps err := by
  obtain ⟨table, hok, hplaceable, -⟩ | ⟨err', herror, hfirst⟩ := placeAll_cases pool ps
  · constructor
    · intro herror
      exact absurd (hok.symm.trans herror) (by simp)
    · rintro ⟨position, hfault, -⟩
      rw [hplaceable.faultAt?_eq_none] at hfault
      exact absurd hfault (by simp)
  · constructor
    · intro herror'
      rwa [Except.error.inj (herror'.symm.trans herror)]
    · intro hfirst'
      rw [herror, hfirst.unique hfirst']

/-- Every slot of a laid out table is empty or usable. -/
lemma Holds.empty_or_usable (hholds : Holds table ps) (hplaceable : Placeable ps) :
    ∀ b ∈ table.toList, b = Backend.empty ∨ b.isUsable = true := by
  intro b hb
  obtain ⟨slot, hslot, rfl⟩ := Vector.mem_iff_getElem.1 (Vector.mem_toList_iff.1 hb)
  by_cases htaken : slot ∈ ps.map Placement.slot
  · exact .inr ((hholds.isUsable_iff hplaceable hslot).2 htaken)
  · have hempty := hholds.others_empty slot hslot htaken
    rw [Vector.getElem?_eq_getElem hslot, Option.some_inj] at hempty
    exact .inl hempty

/-! ### The layout of a pool -/

variable {c : Config}

lemma fst_layOutFrom (c : Config) (pool : Pool) (position : ℕ) (entries : List Entry)
    (table : SlotTable) :
    (c.layOutFrom pool position entries table).1 =
      (placementsFrom position entries).foldlM
        (fun table p => place pool table p.slot p.entry) table := by
  induction entries generalizing position table with
  | nil => rfl
  | cons e entries ih =>
    rw [layOutFrom, placementsFrom, List.zipIdx_cons, List.map_cons, List.foldlM_cons]
    cases place pool table (e.slotAt position) e with
    | error err => rfl
    | ok table' => exact ih (position + 1) table'

/-- A layout makes the placements that the entries ask for. -/
lemma slotTable_eq_placeAll : c.slotTable pool = placeAll pool (c.placements pool) :=
  fst_layOutFrom c pool 0 (c.entries pool) SlotTable.empty

lemma length_placements : (c.placements pool).length = (c.entries pool).length := by
  rw [placements, placementsFrom, List.length_map, List.length_zipIdx]

end VoiceSteering.Config
