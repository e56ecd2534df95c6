/-
# Saturating word arithmetic

Clock differences, window lengths and streak counters are unsigned words that stop at the end
of their range instead of wrapping.  This file defines the three operations the balancer needs
and says what each of them is on natural numbers.
-/

namespace VoiceSteering.Saturating

/-- The difference of two words, zero where it would be negative. -/
def sub (a b : UInt64) : UInt64 := if b ≤ a then a - b else 0

/-- The product of two words, the greatest word where it would not fit. -/
def mul (a b : UInt64) : UInt64 :=
  if a.toNat * b.toNat < UInt64.size then a * b else UInt64.ofNat (UInt64.size - 1)

/-- The next octet, 255 staying where it is. -/
def succ (a : UInt8) : UInt8 := if a = 255 then 255 else a + 1

theorem toNat_sub (a b : UInt64) : (sub a b).toNat = a.toNat - b.toNat := by
  unfold sub
  split
  · next h => exact UInt64.toNat_sub_of_le a b h
  · next h =>
    have hlt : a.toNat < b.toNat := by simpa [UInt64.le_iff_toNat_le] using h
    exact (Nat.sub_eq_zero_of_le (Nat.le_of_lt hlt)).symm

theorem toNat_mul (a b : UInt64) :
    (mul a b).toNat = min (a.toNat * b.toNat) (UInt64.size - 1) := by
  unfold mul
  split
  · next h =>
    rw [UInt64.toNat_mul, Nat.mod_eq_of_lt h]
    exact (Nat.min_eq_left (Nat.le_sub_one_of_lt h)).symm
  · next h =>
    rw [Nat.min_eq_right (by omega)]
    rfl

theorem toNat_succ (a : UInt8) : (succ a).toNat = min (a.toNat + 1) 255 := by
  unfold succ
  split
  · next h =>
    rw [h]
    rfl
  · next h =>
    have ha : a.toNat < 256 := a.toNat_lt
    have hne : a.toNat ≠ 255 := fun e => h (UInt8.toNat_inj.1 e)
    have hlt : a.toNat + 1 < 256 := by omega
    have hsucc : (a + 1).toNat = a.toNat + 1 := (UInt8.toNat_add a 1).trans (Nat.mod_eq_of_lt hlt)
    rw [hsucc, Nat.min_eq_left (Nat.le_of_lt_succ hlt)]

/-- A streak that falls short of a bound is counted in full. -/
theorem toNat_succ_of_not_le {a bound : UInt8} (h : ¬bound ≤ succ a) :
    (succ a).toNat = a.toNat + 1 ∧ a.toNat + 1 < bound.toNat := by
  rw [UInt8.le_iff_toNat_le, toNat_succ] at h
  have hbound : bound.toNat < 256 := bound.toNat_lt
  rw [toNat_succ]
  omega

end VoiceSteering.Saturating
