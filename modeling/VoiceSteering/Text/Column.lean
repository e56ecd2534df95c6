/-
# Columns

Listings align their columns with spaces; a cell that is already wide enough is left alone.
-/

namespace VoiceSteering.Text

/-- A text moved to the right end of a column. -/
def alignRight (width : Nat) (text : String) : String :=
  String.ofList (List.replicate (width - text.length) ' ') ++ text

/-- A text kept at the left end of a column. -/
def alignLeft (width : Nat) (text : String) : String :=
  text ++ String.ofList (List.replicate (width - text.length) ' ')

/-- A number with leading zeros up to `width` digits. -/
def zeroPadded (width n : Nat) : String :=
  let digits := toString n
  String.ofList (List.replicate (width - digits.length) '0') ++ digits

end VoiceSteering.Text
