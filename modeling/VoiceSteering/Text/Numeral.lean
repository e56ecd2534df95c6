/-
# Decimal numerals

Reading of digit strings.  A numeral here is a non-empty run of the ten ASCII digits; signs,
separators and limits on the value are the business of the formats that contain numerals.
-/

namespace VoiceSteering.Text

/-- The value of a decimal digit. -/
def digit? (c : Char) : Option Nat :=
  if '0' ≤ c ∧ c ≤ '9' then some (c.toNat - '0'.toNat) else none

/-- The value of a digit below `base`, with letters of either case for ten and above. -/
def digitIn? (base : Nat) (c : Char) : Option Nat :=
  let value :=
    if '0' ≤ c ∧ c ≤ '9' then some (c.toNat - '0'.toNat)
    else if 'a' ≤ c ∧ c ≤ 'z' then some (c.toNat - 'a'.toNat + 10)
    else if 'A' ≤ c ∧ c ≤ 'Z' then some (c.toNat - 'A'.toNat + 10)
    else none
  value.filter (· < base)

/-- The number written by digits of a base, most significant first. -/
def digitsValue? (base : Nat) (cs : List Char) : Option Nat :=
  cs.foldlM (fun n c => (digitIn? base c).map (n * base + ·)) 0

/-- The number written by a non-empty run of decimal digits. -/
def numeral? : List Char → Option Nat
  | [] => none
  | cs => digitsValue? 10 cs

end VoiceSteering.Text
