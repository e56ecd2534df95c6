/-
# Hexadecimal text

Octets are written with two lowercase digits and read with digits of either case.
-/

namespace VoiceSteering.Text

/-- The value of a hexadecimal digit of either case. -/
def hexValue? (c : Char) : Option UInt8 :=
  if '0' ≤ c ∧ c ≤ '9' then some (c.toNat - '0'.toNat).toUInt8
  else if 'a' ≤ c ∧ c ≤ 'f' then some (c.toNat - 'a'.toNat + 10).toUInt8
  else if 'A' ≤ c ∧ c ≤ 'F' then some (c.toNat - 'A'.toNat + 10).toUInt8
  else none

/-- The lowercase digit of a value below sixteen. -/
def hexDigit (n : Nat) : Char :=
  if n < 10 then Char.ofNat ('0'.toNat + n) else Char.ofNat ('a'.toNat + (n - 10))

/-- An octet as two lowercase digits. -/
def octetText (b : UInt8) : List Char := [hexDigit (b.toNat / 16), hexDigit (b.toNat % 16)]

/-- The octet written by exactly two digits. -/
def octet? : List Char → Option UInt8
  | [high, low] =>
    match hexValue? high, hexValue? low with
    | some h, some l => some (h * 16 + l)
    | _, _ => none
  | _ => none

/-- Octets without separators. -/
def octetsText (bs : List UInt8) : String := String.ofList (bs.flatMap octetText)

/-- The octets of a text made of digit pairs. -/
def octets? : List Char → Option (List UInt8)
  | [] => some []
  | [_] => none
  | a :: b :: rest =>
    match octet? [a, b], octets? rest with
    | some v, some vs => some (v :: vs)
    | _, _ => none

/-- A number in lowercase hexadecimal with at least `width` digits. -/
def hexText (width n : Nat) : String :=
  let digits := Nat.toDigits 16 n
  String.ofList (List.replicate (width - digits.length) '0' ++ digits)

end VoiceSteering.Text
