/-
# Shares of the slots in the flows

For a fixed port the words of the flows are all words, each of them once.  So as many source
addresses are steered to a slot as there are words that leave its number as their remainder, and
those are counted like the turns of a round: the slots differ by at most one address.  The same
holds of the indices of a Maglev table.  For a fixed source address, on the other hand, no two ports
give the same word.
-/
import Mathlib.Data.Set.Card
import VoiceSteering.Proofs.Maglev.Balance
import VoiceSteering.Proofs.Selection.Mix

namespace VoiceSteering.Selection

/-! ### Counting words -/

/-- The words with a given remainder, as numbers. -/
lemma image_toNat_mod_eq (modulus remainder : ℕ) :
    UInt32.toNat '' {word | word.toNat % modulus = remainder} =
      ((Finset.range (2 ^ 32)).filter (· % modulus = remainder) : Finset ℕ) := by
  ext number
  simp only [Set.mem_image, Set.mem_ofPred_eq, Finset.coe_filter, Finset.mem_range]
  constructor
  · rintro ⟨word, hword, rfl⟩
    exact ⟨word.toNat_lt, hword⟩
  · rintro ⟨hlt, hnumber⟩
    have hword : (UInt32.ofNat number).toNat = number := UInt32.toNat_ofNat_of_lt' hlt
    exact ⟨UInt32.ofNat number, by rw [hword, hnumber], hword⟩

/-- How many words leave a remainder. -/
lemma encard_toNat_mod_eq {modulus remainder : ℕ} (hlt : remainder < modulus) :
    {word : UInt32 | word.toNat % modulus = remainder}.encard =
      ((2 ^ 32 - remainder) ⌈/⌉ modulus : ℕ) := by
  have hinjective : Function.Injective UInt32.toNat := fun _ _ => UInt32.toNat_inj.1
  have hclass : ∀ number, number % modulus = remainder ↔ number ≡ remainder [MOD modulus] := by
    intro number
    rw [Nat.ModEq, Nat.mod_eq_of_lt hlt]
  have hcount := Nat.count_modEq_card (2 ^ 32) (Nat.zero_lt_of_lt hlt) remainder
  rw [← hinjective.encard_image, image_toNat_mod_eq, Set.encard_coe_eq_coe_finsetCard,
    ← Nat.count_eq_card_filter_range]
  simp only [hclass]
  rw [hcount, Nat.mod_eq_of_lt hlt, Maglev.ceilDiv_sub (2 ^ 32) hlt]

/-! ### Counting flows -/

/-- As many source addresses have a word with a remainder as there are such words. -/
lemma encard_mix_mod_eq (port : UInt16) {modulus remainder : ℕ} (hlt : remainder < modulus) :
    {source | (mix source port).toNat % modulus = remainder}.encard =
      ((2 ^ 32 - remainder) ⌈/⌉ modulus : ℕ) := by
  rw [← encard_toNat_mod_eq hlt]
  exact Set.encard_preimage_of_bijective (mix_bijective port)
    {word | word.toNat % modulus = remainder}

/-! ### Ports -/

lemma toNat_toUInt32_shiftLeft (port : UInt16) :
    (port.toUInt32 <<< 16).toNat = port.toNat * 2 ^ 16 := by
  have hport := port.toNat_lt
  rw [UInt32.toNat_shiftLeft, UInt16.toNat_toUInt32, Nat.shiftLeft_eq]
  exact Nat.mod_eq_of_lt (by simp; omega)

/-- The upper half of a word shows the port, and nothing is lost in the rounds. -/
lemma mix_injective_port (source : UInt32) : Function.Injective fun port => mix source port := by
  intro port port' hmix
  have hword : source ^^^ (port.toUInt32 <<< 16) = source ^^^ (port'.toUInt32 <<< 16) :=
    stir_bijective.injective (stir_bijective.injective (fold_involutive.injective hmix))
  have hupper := congrArg UInt32.toNat ((UInt32.xor_right_inj source).1 hword)
  rw [toNat_toUInt32_shiftLeft, toNat_toUInt32_shiftLeft] at hupper
  exact UInt16.toNat_inj.1 (Nat.eq_of_mul_eq_mul_right (by decide) hupper)

/-! ### Shares -/

/-- **Slots and indices share the source addresses evenly**, whatever the port. -/
theorem sources_shared_evenly (port : UInt16) :
    (Function.Bijective fun source => mix source port) ∧
      (∀ slots s, s < slots →
        {source | slot source port slots = s}.encard = ((2 ^ 32 - s) ⌈/⌉ slots : ℕ)) ∧
      (∀ s < slotCount, {source | slot source port slotCount = s}.encard = (2 ^ 28 : ℕ)) ∧
      (∀ index < maglevSize,
        {source | maglevIndex source port = index}.encard =
          ((2 ^ 32 - index) ⌈/⌉ maglevSize : ℕ)) ∧
      ∀ source, Function.Injective fun port => mix source port := by
  refine ⟨mix_bijective port, ?_, ?_, ?_, mix_injective_port⟩
  · intro slots s hs
    exact encard_mix_mod_eq port hs
  · intro s hs
    have hshare : (2 ^ 32 - s) ⌈/⌉ slotCount = 2 ^ 28 := by
      rw [Maglev.ceilDiv_sub (2 ^ 32) hs]
      simp [slotCount]
    rw [← hshare]
    exact encard_mix_mod_eq port hs
  · intro index hindex
    exact encard_mix_mod_eq port hindex

/-- Three slots do not divide the addresses, so the first of them gets one more than the others. -/
theorem threeSlots_shares :
    [0, 1, 2].map (fun s => {source | slot source 5060 3 = s}.encard) =
      [(1431655766 : ℕ), (1431655765 : ℕ), (1431655765 : ℕ)] := by
  obtain ⟨-, hshares, -⟩ := sources_shared_evenly 5060
  simp only [List.map_cons, List.map_nil, hshares 3 0 (by decide), hshares 3 1 (by decide),
    hshares 3 2 (by decide), Nat.ceilDiv_eq_add_pred_div]
  norm_num

end VoiceSteering.Selection
