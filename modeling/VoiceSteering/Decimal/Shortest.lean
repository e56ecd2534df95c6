/-
# Shortest decimals

The fewest decimal digits that read back as a given binary floating-point number.  A finite number
is `m · 2^q`, and the reals that round to it form an interval around it, whose ends belong to it
when `m` is even.  For one, two, … seventeen digits, the two neighbours of the number on the grid
of that many digits are tested exactly; the first grid with a neighbour inside the interval wins,
and of two such neighbours the nearer one.  When both are equally near, a rule for ties decides.
-/

namespace VoiceSteering.Decimal

/-- The positive number `digits · 10^exponent`. -/
structure Scientific where
  digits : Nat
  exponent : Int
deriving DecidableEq, Repr

/-- Which one of two equally near decimals is taken. -/
inductive Tie where
  /-- The one whose last digit is even. -/
  | toEven
  /-- The greater one. -/
  | up
deriving DecidableEq, Repr

/-- The positive rational `num / den`. -/
structure Ratio where
  num : Nat
  den : Nat
deriving DecidableEq, Repr

namespace Ratio

/-- The ratio times a power of a base, which may be negative. -/
def scale (r : Ratio) (base : Nat) (e : Int) : Ratio :=
  if 0 ≤ e then ⟨r.num * Nat.pow base e.toNat, r.den⟩ else ⟨r.num, r.den * Nat.pow base (-e).toNat⟩

/-- The exponent of the greatest power of ten that is at most the ratio, searched for from a
starting point downwards. -/
def magnitude (r : Ratio) : (fuel : Nat) → Int → Int
  | 0, e => e
  | fuel + 1, e =>
    let s := r.scale 10 (-e)
    if s.den ≤ s.num then e else magnitude r fuel (e - 1)

end Ratio

/-- A finite positive binary number `m · 2^q` with the lower half-gap to its neighbour.  Below a
power of two the gap is half as wide as above it. -/
structure Binary where
  m : Nat
  q : Int
  /-- Whether the number is a power of two whose lower neighbour is half as far. -/
  narrowBelow : Bool
deriving DecidableEq, Repr

/-- The parts of a finite number that is not zero, from its bits without the sign. -/
def Binary.ofBits (bits : Nat) : Binary :=
  let fraction : Nat := bits % 0x10000000000000
  let exponent : Nat := bits / 0x10000000000000 % 0x800
  if exponent = 0 then ⟨fraction, -1074, false⟩
  else ⟨fraction + 0x10000000000000, (exponent : Int) - 1075, fraction = 0 && 1 < exponent⟩

/-- The candidate with `n` digits for a number whose greatest power of ten is `10^magnitude`. -/
def candidate? (tie : Tie) (b : Binary) (magnitude : Int) (n : Nat) : Option Scientific :=
  let exponent := magnitude - (n - 1 : Nat)
  -- The number is `4m` quarters of `2^q`; its interval reaches two quarters up.
  let unit := (Ratio.mk 1 1).scale 2 (b.q - 2) |>.scale 10 (-exponent)
  let value := 4 * b.m * unit.num
  let low := (4 * b.m - (if b.narrowBelow then 1 else 2)) * unit.num
  let high := (4 * b.m + 2) * unit.num
  let inside (c : Nat) : Bool :=
    if b.m % 2 = 0 then low ≤ c * unit.den && c * unit.den ≤ high
    else low < c * unit.den && c * unit.den < high
  let floor := value / unit.den
  let below := value - floor * unit.den
  let above := (floor + 1) * unit.den - value
  let floorIn := 0 < floor && inside floor
  let ceilIn := inside (floor + 1)
  let takeFloor := below < above || (below = above && tie = .toEven && floor % 2 = 0)
  if floorIn && (takeFloor || !ceilIn) then some ⟨floor, exponent⟩
  else if ceilIn then some ⟨floor + 1, exponent⟩
  else none

/-- A decimal without zeros at the end of its digits. -/
def Scientific.trimmed (s : Scientific) : (fuel : Nat) → Scientific
  | 0 => s
  | fuel + 1 =>
    if s.digits ≠ 0 ∧ s.digits % 10 = 0 then
      Scientific.trimmed ⟨s.digits / 10, s.exponent + 1⟩ fuel
    else s

/-- The shortest decimal that reads back as a finite positive number, given by its bits. -/
def shortest (tie : Tie) (bits : Nat) : Scientific :=
  let b := Binary.ofBits bits
  let magnitude := ((Ratio.mk b.m 1).scale 2 b.q).magnitude 700 309
  match (List.range 17).findSome? fun i => candidate? tie b magnitude (i + 1) with
  | some s => s.trimmed 20
  | none => ⟨b.m, b.q⟩

end VoiceSteering.Decimal
