/-
# The layout of a pool

Entries are placed one after another.  A layout that comes to an end has placed every entry in its
slot, as an active backend with an address, and has warned of exactly the entries whose slot no flow
can reach.
-/
import Mathlib.Tactic.Common
import VoiceSteering.Config.Check

namespace VoiceSteering.Config

lemma Entry.isUsable_toBackend {e : Entry} (haddress : e.address ≠ 0) :
    e.toBackend.isUsable = true := by
  refine Backend.isUsable_iff.2 ⟨?_, haddress⟩
  cases hmac : e.mac with
  | none => simp [Entry.toBackend, hmac, Backend.isActive, Backend.activeFlag]
  | some mac =>
    simp only [Entry.toBackend, hmac, Backend.isActive]
    decide

lemma place_eq_ok_iff {pool : Pool} {table table' : SlotTable} {slot : ℕ} {e : Entry} :
    place pool table slot e = .ok table' ↔
      ∃ h : slot < 16, e.address ≠ 0 ∧ table[slot].isUsable = false ∧
        table' = table.set slot e.toBackend := by
  rw [place]
  by_cases hslot : slot < 16
  · rw [dif_pos hslot]
    by_cases haddress : e.address = 0
    · simp [haddress]
    · cases hused : table[slot].isUsable <;> simp [haddress, hused, hslot, eq_comm]
  · rw [dif_neg hslot]
    simp [hslot]

/-- The layout of some entries from a position on, from a table to the final one. -/
structure LaidOut (c : Config) (pool : Pool) (position : ℕ) (entries : List Entry)
    (table final : SlotTable) (warnings : List Unreachable) : Prop where
  /-- A slot in use is not used again. -/
  kept : ∀ (slot : ℕ) (b : Backend), table[slot]? = some b → b.isUsable = true →
    final[slot]? = some b
  placed : ∀ (i : ℕ) (e : Entry), entries[i]? = some e →
    e.address ≠ 0 ∧ final[e.slotAt (position + i)]? = some e.toBackend
  warned : ∀ w : Unreachable, w ∈ warnings ↔
    ∃ (i : ℕ) (e : Entry), entries[i]? = some e ∧
      c.warning? pool (e.slotAt (position + i)) e = some w

variable {c : Config} {pool : Pool}

lemma LaidOut.nil {position : ℕ} {table : SlotTable} :
    LaidOut c pool position [] table table [] := by
  refine ⟨fun _ _ hb _ => hb, fun i e he => ?_, fun w => ?_⟩
  · exact absurd he (by simp)
  · simp

/-- One entry more, in front of the others. -/
lemma LaidOut.cons {position : ℕ} {e : Entry} {entries : List Entry}
    {table table' final : SlotTable} {warnings : List Unreachable}
    (hplace : place pool table (e.slotAt position) e = .ok table')
    (hrest : LaidOut c pool (position + 1) entries table' final warnings) :
    LaidOut c pool position (e :: entries) table final
      ((c.warning? pool (e.slotAt position) e).toList ++ warnings) := by
  obtain ⟨hslot, haddress, hfree, rfl⟩ := place_eq_ok_iff.1 hplace
  refine ⟨fun slot b hb husable => hrest.kept slot b ?_ husable, fun i e' he => ?_, fun w => ?_⟩
  · -- a slot in use is not the one that the entry takes
    have hother : e.slotAt position ≠ slot := by
      rintro rfl
      rw [Vector.getElem?_eq_getElem hslot, Option.some_inj] at hb
      rw [hb, husable] at hfree
      exact Bool.noConfusion hfree
    rw [Vector.getElem?_set_ne hslot hother, hb]
  · cases i with
    | zero =>
      obtain rfl := Option.some_inj.1 he
      refine ⟨haddress, hrest.kept _ _ ?_ (Entry.isUsable_toBackend haddress)⟩
      exact Vector.getElem?_set_self hslot
    | succ i =>
      rw [show position + (i + 1) = position + 1 + i by omega]
      exact hrest.placed i e' he
  · rw [List.mem_append, Option.mem_toList, hrest.warned]
    constructor
    · rintro (hw | ⟨i, e', he, hw⟩)
      · exact ⟨0, e, rfl, hw⟩
      · refine ⟨i + 1, e', he, ?_⟩
        rw [show position + (i + 1) = position + 1 + i by omega]
        exact hw
    · rintro ⟨i, e', he, hw⟩
      cases i with
      | zero =>
        obtain rfl := Option.some_inj.1 he
        exact .inl hw
      | succ i =>
        rw [show position + (i + 1) = position + 1 + i by omega] at hw
        exact .inr ⟨i, e', he, hw⟩

lemma laidOut_of_ok {position : ℕ} {entries : List Entry} {table final : SlotTable}
    (hok : (c.layOutFrom pool position entries table).1 = .ok final) :
    LaidOut c pool position entries table final
      (c.layOutFrom pool position entries table).2 := by
  induction entries generalizing position table with
  | nil =>
    obtain rfl := Except.ok.inj hok
    exact .nil
  | cons e entries ih =>
    rw [layOutFrom] at hok ⊢
    cases hplace : place pool table (e.slotAt position) e with
    | error err =>
      simp only [hplace] at hok
      exact absurd hok (by simp)
    | ok table' =>
      simp only [hplace] at hok ⊢
      exact .cons hplace (ih hok)

/-! ### A whole pool -/

variable {table : SlotTable} {position : ℕ} {e : Entry}

/-- Every entry of a pool that can be laid out gets its slot. -/
lemma getElem?_slotTable (hok : c.slotTable pool = .ok table)
    (he : (c.entries pool)[position]? = some e) :
    e.address ≠ 0 ∧ table[e.slotAt position]? = some e.toBackend := by
  have hplaced := (laidOut_of_ok hok).placed position e he
  rwa [Nat.zero_add] at hplaced

/-- The warnings of a layout are those of the slots that no flow can reach. -/
lemma mem_warnings_iff (hok : c.slotTable pool = .ok table)
    (he : (c.entries pool)[position]? = some e) :
    ⟨pool, e.slotAt position, (c.slots pool).toNat⟩ ∈ (c.layOut pool).2 ↔
      c.isUnreachable pool (e.slotAt position) = true := by
  have hlaid := laidOut_of_ok hok
  obtain ⟨haddress, hslot⟩ := getElem?_slotTable hok he
  have hlt : e.slotAt position < slotCount := (Vector.getElem?_eq_some_iff.1 hslot).1
  rw [show c.layOut pool = c.layOutFrom pool 0 (c.entries pool) SlotTable.empty from rfl,
    hlaid.warned]
  constructor
  · rintro ⟨i, e', -, hw⟩
    obtain ⟨⟨-, -, hunreachable⟩, heq⟩ := Option.ite_none_right_eq_some.1 hw
    rw [← (Unreachable.mk.inj (Option.some_inj.1 heq)).2.1]
    exact hunreachable
  · intro hunreachable
    refine ⟨position, e, he, ?_⟩
    rw [Nat.zero_add]
    exact if_pos ⟨hlt, haddress, hunreachable⟩

/-- With look-up tables every slot can be reached. -/
lemma warnings_eq_nil (hok : c.slotTable pool = .ok table) (hmode : c.selection.mode = .maglev) :
    (c.layOut pool).2 = [] := by
  refine List.eq_nil_iff_forall_not_mem.2 fun w hw => ?_
  obtain ⟨i, e, -, hw⟩ := ((laidOut_of_ok hok).warned w).1 hw
  obtain ⟨⟨-, -, hunreachable⟩, -⟩ := Option.ite_none_right_eq_some.1 hw
  simp [isUnreachable, hmode] at hunreachable

end VoiceSteering.Config
