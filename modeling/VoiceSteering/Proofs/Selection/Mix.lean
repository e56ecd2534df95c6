/-
# The word of a flow

Folding the upper half of a word onto the lower one undoes itself, and the multiplier of the rounds
is odd, so nothing is lost in them: for a fixed port the words of the flows are a permutation of the
source addresses.  Every word is therefore the word of a flow, and so is every remainder of words.
-/
import Mathlib.Algebra.Group.Nat.Defs
import Mathlib.Tactic.Common
import VoiceSteering.Selection

namespace VoiceSteering.Selection

/-- Folds the upper half of a word onto the lower one. -/
def fold (h : UInt32) : UInt32 := (h >>> 16) ^^^ h

/-- The inverse of the multiplier of a round. -/
def multiplierInverse : UInt32 := 0x119de1f3

lemma shiftRight_shiftRight (h : UInt32) : (h >>> 16) >>> 16 = 0 := by
  refine UInt32.toNat_inj.1 ?_
  have hlt := h.toNat_lt
  show h.toNat >>> 16 >>> 16 = 0
  rw [Nat.shiftRight_eq_div_pow, Nat.shiftRight_eq_div_pow]
  omega

lemma fold_involutive : Function.Involutive fold := by
  intro h
  show ((h >>> 16) ^^^ h) >>> 16 ^^^ ((h >>> 16) ^^^ h) = h
  rw [UInt32.shiftRight_xor, shiftRight_shiftRight, UInt32.zero_xor, ← UInt32.xor_assoc,
    UInt32.xor_self, UInt32.zero_xor]

lemma stir_bijective : Function.Bijective stir := by
  have hleft : (0x45d9f3b : UInt32) * multiplierInverse = 1 := by decide
  refine Function.bijective_iff_has_inverse.2 ⟨fun h => fold (h * multiplierInverse), ?_, ?_⟩
  · intro h
    show fold (fold h * 0x45d9f3b * multiplierInverse) = h
    rw [UInt32.mul_assoc, hleft, UInt32.mul_one, fold_involutive h]
  · intro h
    show fold (fold (h * multiplierInverse)) * 0x45d9f3b = h
    rw [fold_involutive (h * multiplierInverse), UInt32.mul_assoc,
      UInt32.mul_comm multiplierInverse, hleft, UInt32.mul_one]

/-- For a fixed port the words of the flows are a permutation of the source addresses. -/
lemma mix_bijective (port : UInt16) : Function.Bijective fun source => mix source port := by
  have hport : Function.Involutive fun source : UInt32 => source ^^^ (port.toUInt32 <<< 16) := by
    intro source
    show source ^^^ _ ^^^ _ = source
    rw [UInt32.xor_assoc, UInt32.xor_self, UInt32.xor_zero]
  exact fold_involutive.bijective.comp
    (stir_bijective.comp (stir_bijective.comp hport.bijective))

/-- Every remainder of words is that of a flow, whatever its port. -/
lemma exists_mix_mod_eq (port : UInt16) {remainder modulus : ℕ} (hlt : remainder < modulus)
    (hmodulus : modulus ≤ 2 ^ 32) : ∃ source, (mix source port).toNat % modulus = remainder := by
  obtain ⟨source, hsource⟩ := (mix_bijective port).surjective (UInt32.ofNat remainder)
  have hword : (mix source port).toNat = remainder := by
    rw [show mix source port = UInt32.ofNat remainder from hsource]
    exact UInt32.toNat_ofNat_of_lt' (Nat.lt_of_lt_of_le hlt hmodulus)
  exact ⟨source, by rw [hword, Nat.mod_eq_of_lt hlt]⟩

end VoiceSteering.Selection
