/-
# Shares of a table

Every turn gives one entry to the backend whose turn it is, and no entry is taken away again.  So a
backend owns as many entries as it has had turns, and of the `maglevSize` turns the `k`-th of `n`
usable backends takes those that leave the remainder `k` modulo `n`.
-/
import Mathlib.Algebra.Order.Floor.Div
import Mathlib.Data.Int.CardIntervalMod
import Mathlib.Tactic.Common
import VoiceSteering.Proofs.Maglev.Population

namespace VoiceSteering.Maglev

/-- How many entries name a slot. -/
def Table.owned (t : Table) (slot : ℕ) : ℕ := t.owners.toList.count (some slot)

variable {start : List Claimant} {k i j slot : ℕ} {fill : Fill} {c : Claimant}

/-! ### Turns and entries -/

lemma Table.owned_blank (slot : ℕ) : Table.blank.owned slot = 0 := by
  rw [owned, owners_blank, Owners.unclaimed, Vector.toList_replicate]
  refine List.count_eq_zero.2 fun hmem => ?_
  exact absurd (List.eq_of_mem_replicate hmem) (by simp)

/-- A turn adds one entry to those of the slot whose turn it is. -/
lemma Fill.Progress.owned_turn (hfill : Progress start k fill) (hsound : ∀ c ∈ start, c.Sound)
    (hslots : ∀ c ∈ start, c.slot < 2 ^ 32 - 1) (hne : start ≠ []) (hk : k < maglevSize)
    (slot : ℕ) :
    (fill.turn k).table.owned slot = fill.table.owned slot +
      if (start.map Claimant.slot)[k % start.length]? = some slot then 1 else 0 := by
  obtain ⟨c, j, hfirst, hturn⟩ := hfill.exists_firstFree hsound hne hk
  have hslot : c.slot < 2 ^ 32 - 1 :=
    hslots c.restart (hfill.restart_mem (Array.mem_of_getElem? hfirst.claimant))
  have howner : (start.map Claimant.slot)[k % start.length]? = some c.slot := by
    rw [List.getElem?_map, hfill.claimant_restart hfirst.claimant]
    rfl
  have hfree : fill.table.owners.isUnclaimed (c.preference j) = true := by
    rw [Fill.isUnclaimed_owners, hfirst.free]
  rw [hturn, Table.owned, Fill.owners_claim fill _ hslot, Owners.count_claim hfree]
  simp only [howner, reduceCtorEq, if_false, Nat.sub_zero, Table.owned]

/-- A slot owns as many entries as it has had turns. -/
lemma owned_after (hsound : ∀ c ∈ start, c.Sound) (hstart : ∀ c ∈ start, c.restart = c)
    (hslots : ∀ c ∈ start, c.slot < 2 ^ 32 - 1) (hne : start ≠ []) {p : ℕ → Prop}
    [DecidablePred p]
    (hturns : ∀ turn, (start.map Claimant.slot)[turn % start.length]? = some slot ↔ p turn)
    (hk : k ≤ maglevSize) :
    (Fill.after ⟨Table.blank, start.toArray⟩ k).table.owned slot = k.count p := by
  induction k with
  | zero =>
    rw [Nat.count_zero]
    exact Table.owned_blank slot
  | succ k ih =>
    have hfill := Fill.Progress.after hsound hstart hne (Nat.le_of_succ_le hk)
    rw [Fill.after_succ, hfill.owned_turn hsound hslots hne hk, ih (Nat.le_of_succ_le hk),
      Nat.count_succ]
    simp only [hturns]

/-! ### The turns of a backend -/

lemma ceilDiv_sub (m : ℕ) {n k : ℕ} (hk : k < n) :
    (m - k) ⌈/⌉ n = m / n + if k < m % n then 1 else 0 := by
  have hm : n * (m / n) + m % n = m := Nat.div_add_mod m n
  have hr : m % n < n := Nat.mod_lt _ (Nat.zero_lt_of_lt hk)
  have hproduct : m / n * n = n * (m / n) := Nat.mul_comm _ _
  have hnext : (m / n + 1) * n = m / n * n + n := Nat.succ_mul _ _
  rw [Nat.ceilDiv_eq_add_pred_div]
  split
  · next hlt =>
    have hlast : (m / n + 1 + 1) * n = (m / n + 1) * n + n := Nat.succ_mul _ _
    exact Nat.div_eq_of_lt_le (by omega) (by omega)
  · next hle =>
    rw [Nat.add_zero]
    exact Nat.div_eq_of_lt_le (by omega) (by omega)

/-- The claimants are the usable slots in order. -/
lemma map_slot_claimants (backends : List Backend) :
    (claimants backends).map Claimant.slot = backends.findIdxs Backend.isUsable := by
  rw [claimants, List.mapIdx_eq_zipIdx_map, List.filterMap_map, List.map_filterMap,
    List.findIdxs_eq_filterMap_zipIdx]
  refine List.filterMap_congr fun indexed _ => ?_
  cases husable : indexed.1.isUsable <;> simp [husable, Claimant.ofBackend]

/-! ### Shares -/

variable {backends : List Backend}

/-- With a usable backend, a slot owns as many entries as it has had turns. -/
lemma owned_buildTable_eq_count (hnumbered : Numbered backends)
    (hsome : ∃ b ∈ backends, b.isUsable = true) {p : ℕ → Prop} [DecidablePred p]
    (hturns : ∀ turn, (backends.findIdxs Backend.isUsable)[
      turn % (backends.findIdxs Backend.isUsable).length]? = some slot ↔ p turn) :
    (buildTable backends).owned slot = maglevSize.count p := by
  rw [← map_slot_claimants, List.length_map] at hturns
  rw [buildTable]
  exact owned_after (fun _ => Claimant.sound_of_mem_claimants hnumbered)
    (fun _ => Claimant.restart_of_mem_claimants)
    (fun _ => Claimant.slot_lt_of_mem_claimants hnumbered) (claimants_ne_nil hsome) hturns
    (Nat.le_refl maglevSize)

lemma exists_usable_of_mem_findIdxs (hslot : slot ∈ backends.findIdxs Backend.isUsable) :
    ∃ b ∈ backends, b.isUsable = true := by
  obtain ⟨hlt, husable⟩ := List.mem_findIdxs_iff_exists_getElem_pos.1 hslot
  exact ⟨_, List.getElem_mem hlt, husable⟩

/-- The `k`-th of `n` usable backends takes one turn in each round, and one more in the round that
is broken off if it comes up in it. -/
lemma owned_eq_div_add (hnumbered : Numbered backends)
    (hslot : (backends.findIdxs Backend.isUsable)[k]? = some slot) :
    (buildTable backends).owned slot =
      maglevSize / (backends.findIdxs Backend.isUsable).length +
        if k < maglevSize % (backends.findIdxs Backend.isUsable).length then 1 else 0 := by
  obtain ⟨hk, hget⟩ := List.getElem?_eq_some_iff.1 hslot
  have hmem : slot ∈ backends.findIdxs Backend.isUsable := hget ▸ List.getElem_mem hk
  have hpos : 0 < (backends.findIdxs Backend.isUsable).length := Nat.zero_lt_of_lt hk
  rw [owned_buildTable_eq_count hnumbered (exists_usable_of_mem_findIdxs hmem)
    (p := (· ≡ k [MOD (backends.findIdxs Backend.isUsable).length])) fun turn => ?_,
    Nat.count_modEq_card _ hpos, Nat.mod_eq_of_lt hk]
  have hturn : turn % (backends.findIdxs Backend.isUsable).length <
      (backends.findIdxs Backend.isUsable).length := Nat.mod_lt _ hpos
  rw [Nat.ModEq, Nat.mod_eq_of_lt hk, List.getElem?_eq_getElem hturn, Option.some_inj, ← hget,
    List.nodup_findIdxs.getElem_inj_iff]

lemma owned_eq_zero (hnumbered : Numbered backends)
    (hslot : slot ∉ backends.findIdxs Backend.isUsable) : (buildTable backends).owned slot = 0 := by
  by_cases hsome : ∃ b ∈ backends, b.isUsable = true
  · have hnever : ∀ turn, (backends.findIdxs Backend.isUsable)[
        turn % (backends.findIdxs Backend.isUsable).length]? = some slot ↔ False :=
      fun turn => iff_of_false (fun hturn => hslot (List.mem_of_getElem? hturn)) id
    exact (owned_buildTable_eq_count hnumbered hsome hnever).trans (Nat.count_false _)
  · have hnone : ∀ b ∈ backends, b.isUsable = false := fun b hb =>
      Bool.eq_false_iff.2 fun husable => hsome ⟨b, hb, husable⟩
    rw [buildTable_eq_blank hnone, Table.owned_blank]

/-- Unless there are more usable slots than entries, each of them owns one. -/
lemma owned_pos_iff (hnumbered : Numbered backends)
    (hfew : (backends.findIdxs Backend.isUsable).length ≤ maglevSize) :
    0 < (buildTable backends).owned slot ↔ slot ∈ backends.findIdxs Backend.isUsable := by
  constructor
  · intro hpos
    by_contra hslot
    exact Nat.ne_of_gt hpos (owned_eq_zero hnumbered hslot)
  · intro hslot
    obtain ⟨k, hk⟩ := List.getElem?_of_mem hslot
    rw [owned_eq_div_add hnumbered hk]
    exact Nat.add_pos_left (Nat.div_pos hfew (List.length_pos_of_mem hslot)) _

end VoiceSteering.Maglev
