/-
# Preferences of a claimant

The preferences of a claimant are an arithmetic progression modulo the table size.  The size is
prime and the step is smaller, so the first `maglevSize` preferences run through all entries of the
table, each of them once.  A search from the cursor therefore meets a free entry in time whenever
one is left, and it stops at the first one.
-/
import Mathlib.Data.Fintype.EquivFin
import Mathlib.Data.Nat.ModEq
import Mathlib.Data.Nat.Prime.Basic
import Mathlib.Tactic.NormNum.Prime
import VoiceSteering.Maglev

namespace VoiceSteering.Maglev

lemma maglevSize_prime : maglevSize.Prime := by
  rw [maglevSize]
  norm_num

/-- A claimant whose progression runs through the whole table and whose slot can be told from a
free entry. -/
structure Claimant.Sound (c : Claimant) : Prop where
  skip_pos : 0 < c.skip
  skip_lt : c.skip < maglevSize
  slot_ne : UInt32.ofNat c.slot ≠ maglevEmpty

/-- Every usable backend sits in a slot whose number fits an entry and can be told from a free
one.  No entry can name any other slot. -/
def Numbered (backends : List Backend) : Prop :=
  ∀ slot b, backends[slot]? = some b → b.isUsable = true → slot < 2 ^ 32 - 1

lemma numbered_of_length_lt {backends : List Backend} (hlength : backends.length < 2 ^ 32 - 1) :
    Numbered backends := by
  intro slot b hb _
  exact (List.getElem?_eq_some_iff.1 hb).1.trans hlength

/-- A claimant before its first turn. -/
def Claimant.restart (c : Claimant) : Claimant := { c with next := 0 }

namespace Claimant

variable {c : Claimant}

/-! ### The claimants of a pool -/

lemma mem_claimants {backends : List Backend} :
    c ∈ claimants backends ↔
      ∃ slot b, backends[slot]? = some b ∧ b.isUsable = true ∧ c = ofBackend slot b := by
  simp only [claimants, List.mem_filterMap, List.mem_mapIdx, Option.ite_none_right_eq_some,
    Option.some_inj, Prod.exists, Prod.mk.injEq]
  constructor
  · rintro ⟨slot, b, ⟨i, hi, rfl, rfl⟩, husable, rfl⟩
    exact ⟨i, backends[i], List.getElem?_eq_getElem hi, husable, rfl⟩
  · rintro ⟨slot, b, hb, husable, rfl⟩
    obtain ⟨hslot, rfl⟩ := List.getElem?_eq_some_iff.1 hb
    exact ⟨slot, backends[slot], ⟨slot, hslot, rfl, rfl⟩, husable, rfl⟩

lemma slot_lt_of_mem_claimants {backends : List Backend} (hnumbered : Numbered backends)
    (hc : c ∈ claimants backends) : c.slot < 2 ^ 32 - 1 := by
  obtain ⟨slot, b, hb, husable, rfl⟩ := mem_claimants.1 hc
  exact hnumbered slot b hb husable

lemma sound_of_mem_claimants {backends : List Backend} (hnumbered : Numbered backends)
    (hc : c ∈ claimants backends) : c.Sound := by
  have hslot := slot_lt_of_mem_claimants hnumbered hc
  obtain ⟨slot, b, -, -, rfl⟩ := mem_claimants.1 hc
  refine ⟨Nat.succ_pos _, ?_, fun hname => ?_⟩
  · have hmod : (hash 0x9e3779b97f4a7c15 b).toNat % (maglevSize - 1) < maglevSize - 1 :=
      Nat.mod_lt _ (by decide)
    simp only [ofBackend]
    omega
  · have htoNat : slot % 2 ^ 32 = 0xffffffff := congrArg UInt32.toNat hname
    simp only [ofBackend] at hslot
    omega

lemma restart_of_mem_claimants {backends : List Backend} (hc : c ∈ claimants backends) :
    c.restart = c := by
  obtain ⟨slot, b, -, -, rfl⟩ := mem_claimants.1 hc
  rfl

/-! ### Every entry is preferred once -/

lemma preference_mod (hc : c.Sound) {i j : ℕ} (h : c.preference i = c.preference j) :
    i % maglevSize = j % maglevSize := by
  have hcoprime : maglevSize.Coprime c.skip :=
    Nat.coprime_of_lt_prime (Nat.ne_of_gt hc.skip_pos) hc.skip_lt maglevSize_prime
  exact Nat.ModEq.cancel_right_of_coprime hcoprime (Nat.ModEq.add_left_cancel' c.offset h)

lemma exists_preference (hc : c.Sound) {entry : ℕ} (hentry : entry < maglevSize) :
    ∃ j < maglevSize, c.preference j = entry := by
  let prefer : Fin maglevSize → Fin maglevSize := fun j => ⟨c.preference j, c.preference_lt j⟩
  have hinjective : Function.Injective prefer := by
    intro i j hij
    have hmod := preference_mod hc (congrArg Fin.val hij)
    rw [Nat.mod_eq_of_lt i.isLt, Nat.mod_eq_of_lt j.isLt] at hmod
    exact Fin.ext hmod
  -- one round has as many preferences as there are entries, so a round without repetition meets all
  obtain ⟨j, hj⟩ := Finite.surjective_of_injective hinjective ⟨entry, hentry⟩
  exact ⟨j, j.isLt, congrArg Fin.val hj⟩

end Claimant

/-! ### Searching -/

/-- A search ends at the first free preference from the cursor on. -/
lemma seek_eq {isFree : ℕ → Bool} {fuel j : ℕ} {c : Claimant} (hnext : c.next ≤ j)
    (hfuel : j ≤ c.next + fuel) (hfree : isFree (c.preference j) = true)
    (htaken : ∀ i, c.next ≤ i → i < j → isFree (c.preference i) = false) :
    seek isFree fuel c = (c.preference j, { c with next := j + 1 }) := by
  induction fuel generalizing c with
  | zero =>
    obtain rfl : c.next = j := by omega
    rfl
  | succ fuel ih =>
    rcases Nat.eq_or_lt_of_le hnext with rfl | hlt
    · rw [seek, if_pos hfree]
    · rw [seek, if_neg (by rw [htaken c.next (Nat.le_refl _) hlt]; exact Bool.false_ne_true)]
      exact ih (c := { c with next := c.next + 1 }) hlt (by simp only; omega) hfree
        fun i hi hij => htaken i (Nat.le_of_succ_le hi) hij

/-- As long as an entry is free, a search from a cursor before which all entries are taken finds
one within one round. -/
lemma exists_seek_eq {isFree : ℕ → Bool} {c : Claimant} (hc : c.Sound)
    (htaken : ∀ i < c.next, isFree (c.preference i) = false)
    (hfree : ∃ entry < maglevSize, isFree entry = true) :
    ∃ j, c.next ≤ j ∧ j < maglevSize ∧ isFree (c.preference j) = true ∧
      (∀ i < j, isFree (c.preference i) = false) ∧
      seek isFree maglevSize c = (c.preference j, { c with next := j + 1 }) := by
  obtain ⟨entry, hentry, hentryfree⟩ := hfree
  obtain ⟨j₀, hj₀, hpreference⟩ := Claimant.exists_preference hc hentry
  have hsome : ∃ j, isFree (c.preference j) = true := ⟨j₀, by rw [hpreference, hentryfree]⟩
  have hfirst : ∀ i < Nat.find hsome, isFree (c.preference i) = false :=
    fun i hi => Bool.eq_false_iff.2 (Nat.find_min hsome hi)
  have hle : Nat.find hsome ≤ j₀ := Nat.find_min' hsome (by rw [hpreference, hentryfree])
  have hnext : c.next ≤ Nat.find hsome := by
    by_contra hlt
    have htaken' := htaken _ (Nat.lt_of_not_le hlt)
    rw [Nat.find_spec hsome] at htaken'
    exact Bool.noConfusion htaken'
  exact ⟨Nat.find hsome, hnext, by omega, Nat.find_spec hsome, hfirst,
    seek_eq hnext (by omega) (Nat.find_spec hsome) fun i _ hi => hfirst i hi⟩

end VoiceSteering.Maglev
