/-
# The nearest floating-point number

Rounding of a ratio of natural numbers to the nearest double-precision number, a tie going to the
neighbour with an even last bit.  The result is put together from its bits in exact arithmetic.
-/
import VoiceSteering.Decimal.Shortest

namespace VoiceSteering.Decimal

/-- The quotient rounded to the nearest natural number, a tie going to the even one. -/
def roundDiv (num den : Nat) : Nat :=
  let q := num / den
  let r := num % den
  if 2 * r < den then q
  else if den < 2 * r then q + 1
  else if q % 2 = 0 then q else q + 1

namespace Ratio

/-- The bits of the nearest double-precision number.  With `2^52 ≤ r / 2^e < 2^53`, or the least
possible `e`, the quotient by `2^e` is rounded; a carry out of it goes into the exponent bits. -/
def nearestBits (r : Ratio) : Nat :=
  if r.num = 0 then 0
  else
    let low : Int := (r.num.log2 : Int) - r.den.log2 - 53
    let fits (e : Int) : Bool :=
      let s := r.scale 2 (-e)
      s.num < 0x20000000000000 * s.den
    let e := max (if fits low then low else low + 1) (-1074)
    let s := r.scale 2 (-e)
    let m := roundDiv s.num s.den
    let bits :=
      if m < 0x10000000000000 then m
      else (e + 1075).toNat * 0x10000000000000 + (m - 0x10000000000000)
    if 971 < e then 0x7ff0000000000000 else min bits 0x7ff0000000000000

/-- The nearest double-precision number. -/
def toFloat (r : Ratio) : Float := Float.ofBits (UInt64.ofNat r.nearestBits)

end Ratio

/-- The double-precision number nearest to a natural number. -/
def floatOfNat (n : Nat) : Float := (Ratio.mk n 1).toFloat

end VoiceSteering.Decimal
