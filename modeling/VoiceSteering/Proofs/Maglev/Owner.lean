/-
# Every claimant owns an entry

In the first round each claimant takes its first turn, and as long as there are no more claimants
than entries it finds a free one.  An entry that has been claimed keeps its slot, since later turns
claim free entries only.  So every usable backend is named by the finished table.
-/
import Mathlib.Tactic.Common
import VoiceSteering.Proofs.Maglev.Fill

namespace VoiceSteering.Maglev

variable {start : List Claimant} {k : ℕ} {fill : Fill}

namespace Fill.Progress

/-- A turn leaves the entries alone that have been claimed. -/
lemma getElem?_turn (hfill : Progress start k fill) (hstart : ∀ c ∈ start, c.Sound)
    (hne : start ≠ []) (hk : k < maglevSize) {entry : ℕ} (htaken : fill.isFree entry = false) :
    (fill.turn k).table[entry]? = fill.table[entry]? := by
  obtain ⟨c, j, hfirst, hturn⟩ := hfill.exists_firstFree hstart hne hk
  have hother : entry ≠ c.preference j := by
    rintro rfl
    rw [hfirst.free] at htaken
    exact Bool.noConfusion htaken
  rw [hturn, Fill.table_claim_of_ne hother]

end Fill.Progress

/-- From its first turn on a claimant owns an entry. -/
lemma Fill.exists_owned (hsound : ∀ c ∈ start, c.Sound) (hstart : ∀ c ∈ start, c.restart = c)
    {i : ℕ} {c : Claimant} (hc : start[i]? = some c) (hik : i < k) (hk : k ≤ maglevSize) :
    ∃ entry < maglevSize, (Fill.after ⟨Table.blank, start.toArray⟩ k).table[entry]? =
      some (UInt32.ofNat c.slot) := by
  have hmem : c ∈ start := List.mem_of_getElem? hc
  have hne : start ≠ [] := List.ne_nil_of_mem hmem
  induction k with
  | zero => exact absurd hik (Nat.not_lt_zero i)
  | succ k ih =>
    have hfill := Fill.Progress.after hsound hstart hne (Nat.le_of_succ_le hk)
    rw [Fill.after_succ]
    rcases Nat.lt_succ_iff_lt_or_eq.1 hik with hlt | rfl
    · obtain ⟨entry, hentry, howned⟩ := ih hlt (Nat.le_of_succ_le hk)
      refine ⟨entry, hentry, ?_⟩
      have htaken : (Fill.after ⟨Table.blank, start.toArray⟩ k).isFree entry = false := by
        rw [Fill.isFree, howned]
        simpa using (hsound c hmem).slot_ne
      rw [hfill.getElem?_turn hsound hne hk htaken, howned]
    · -- the first round: turn `i` is that of the claimant at position `i`
      have hturn : i % start.length = i :=
        Nat.mod_eq_of_lt (List.getElem?_eq_some_iff.1 hc).1
      obtain ⟨c', j, hfirst, hclaim⟩ := hfill.exists_firstFree hsound hne hk
      rw [hturn] at hfirst hclaim
      have hslot : c'.slot = c.slot := by
        have hsame := hfill.claimant_restart hfirst.claimant
        rw [hc] at hsame
        exact (congrArg Claimant.slot (Option.some_inj.1 hsame)).symm
      refine ⟨c'.preference j, c'.preference_lt j, ?_⟩
      rw [hclaim, Fill.table_claim_self, hslot]

/-- **Every usable backend is named by an entry of the table**, if there are not more backends than
entries. -/
theorem exists_entry_eq {backends : List Backend} (hlength : backends.length ≤ maglevSize)
    {slot : ℕ} {b : Backend} (hb : backends[slot]? = some b) (husable : b.isUsable = true) :
    ∃ entry < maglevSize, (buildTable backends)[entry]? = some (UInt32.ofNat slot) := by
  have hmem : Claimant.ofBackend slot b ∈ claimants backends :=
    Claimant.mem_claimants.2 ⟨slot, b, hb, husable, rfl⟩
  obtain ⟨i, hi⟩ := List.getElem?_of_mem hmem
  have hcount : (claimants backends).length ≤ backends.length := by
    rw [claimants]
    refine (List.length_filterMap_le _ _).trans ?_
    rw [List.length_mapIdx]
  have hturn : i < maglevSize := by
    have := (List.getElem?_eq_some_iff.1 hi).1
    omega
  have hnumbered : Numbered backends := numbered_of_length_lt (by
    rw [maglevSize] at hlength
    omega)
  rw [buildTable]
  exact Fill.exists_owned (fun _ => Claimant.sound_of_mem_claimants hnumbered)
    (fun _ => Claimant.restart_of_mem_claimants) hi hturn (Nat.le_refl maglevSize)

end VoiceSteering.Maglev
