/-
# Texts of floating-point numbers

Both texts below show the shortest digits and always a point or an exponent, so that a number is
never mistaken for an integer.  They differ in where positional notation ends and in which of two
equally near decimals they show.
-/
import VoiceSteering.Decimal.Shortest

namespace VoiceSteering.Decimal

/-- How the text of a floating-point number is laid out. -/
structure Layout where
  /-- Whether a number is written positionally, by the place of its point: the number of digits
  in front of it, zero or negative when the number is below one tenth. -/
  isPositional : Int → Bool
  /-- Which one of two equally near decimals is shown. -/
  tie : Tie

/-- Every number is written positionally, and a tie goes away from zero. -/
def Layout.plain : Layout := ⟨fun _ => true, .up⟩

/-- Numbers from 0.00001 up to, but not including, 10^16 are written positionally, all others with
an exponent, and a tie goes to the even digit. -/
def Layout.compact : Layout := ⟨fun point => -5 < point && point ≤ 16, .toEven⟩

/-- A positive number in positional notation, with at least one digit on each side of the point. -/
def positional (digits : List Char) (point : Int) : List Char :=
  if point ≤ 0 then '0' :: '.' :: (List.replicate (-point).toNat '0' ++ digits)
  else
    let p := point.toNat
    if digits.length ≤ p then digits ++ List.replicate (p - digits.length) '0' ++ ['.', '0']
    else digits.take p ++ '.' :: digits.drop p

/-- A positive number with an exponent, which always has a sign; a single digit has no point. -/
def exponential (digits : List Char) (point : Int) : List Char :=
  let mantissa := match digits with
    | [] => []
    | [d] => [d]
    | d :: ds => d :: '.' :: ds
  let sign := if point < 1 then '-' else '+'
  mantissa ++ 'e' :: sign :: (toString (point - 1).natAbs).toList

/-- The text of a floating-point number. -/
def render (layout : Layout) (x : Float) : String :=
  let bits := x.toBits.toNat
  let negative := 0x8000000000000000 ≤ bits
  let magnitude := bits % 0x8000000000000000
  if x.isNaN then "NaN"
  else
    let sign := if negative then "-" else ""
    if x.isInf then sign ++ "inf"
    else if magnitude = 0 then sign ++ "0.0"
    else
      let s := shortest layout.tie magnitude
      let digits := (toString s.digits).toList
      let point := digits.length + s.exponent
      let text := if layout.isPositional point then positional digits point
        else exponential digits point
      sign ++ String.ofList text

end VoiceSteering.Decimal
