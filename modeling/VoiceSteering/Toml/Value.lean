/-
# TOML values

What a TOML document says, with the members of tables in the order in which they appear.  Nothing
is ever computed with dates and times, so they are only known to be such.
-/

namespace VoiceSteering.Toml

/-- A TOML value. -/
inductive Value where
  | bool (b : Bool)
  | integer (n : Int)
  | float (x : Float)
  | string (s : String)
  | dateTime
  /-- An array in brackets. -/
  | array (elements : List Value)
  /-- An array of tables with headers. -/
  | tables (elements : List Value)
  | table (members : List (String × Value))
deriving Inhabited

/-- What a step of the reader found and the characters after it. -/
abbrev Found (α : Type) := Option (α × List Char)

end VoiceSteering.Toml
