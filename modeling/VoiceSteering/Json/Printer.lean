/-
# Writing JSON

Values are written without any blanks, or laid out over several lines with two blanks per level.
Only quotes, backslashes and control characters are escaped.
-/
import VoiceSteering.Decimal.Text
import VoiceSteering.Json.Value
import VoiceSteering.Text.Hex

namespace VoiceSteering.Json

/-- The characters that stand for one character inside a string. -/
def escaped (c : Char) : List Char :=
  if c = '"' then ['\\', '"']
  else if c = '\\' then ['\\', '\\']
  else if c = '\n' then ['\\', 'n']
  else if c = '\r' then ['\\', 'r']
  else if c = '\t' then ['\\', 't']
  else if c = '\x08' then ['\\', 'b']
  else if c = '\x0c' then ['\\', 'f']
  else if c.toNat < 0x20 then '\\' :: 'u' :: (Text.hexText 4 c.toNat).toList
  else [c]

/-- A string in quotes. -/
def quoted (s : String) : String := String.ofList ('"' :: s.toList.flatMap escaped ++ ['"'])

/-- The text of a value that holds no others. -/
def scalar : Value → String
  | .null => "null"
  | .bool b => if b then "true" else "false"
  | .integer n => toString n
  | .float x => Decimal.render .compact x
  | .string s => quoted s
  | .array _ => "[]"
  | .object _ => "\x7b\x7d"

mutual

/-- A value without blanks. -/
def Value.render : Value → String
  | .array (v :: vs) => "[" ++ v.render ++ Value.renderElements vs "]"
  | .object ((n, v) :: ms) => "\x7b" ++ quoted n ++ ":" ++ v.render ++ Value.renderMembers ms "\x7d"
  | v => scalar v

/-- The elements after the first one, then a closing text. -/
def Value.renderElements : List Value → String → String
  | [], close => close
  | v :: vs, close => "," ++ v.render ++ Value.renderElements vs close

/-- The members after the first one, then a closing text. -/
def Value.renderMembers : List (String × Value) → String → String
  | [], close => close
  | (n, v) :: ms, close => "," ++ quoted n ++ ":" ++ v.render ++ Value.renderMembers ms close

end

/-- A new line at a level of nesting. -/
def newLine (level : Nat) : String := "\n" ++ String.ofList (List.replicate (2 * level) ' ')

mutual

/-- A value over several lines, at a level of nesting. -/
def Value.layOut : Nat → Value → String
  | level, .array (v :: vs) =>
    "[" ++ newLine (level + 1) ++ Value.layOut (level + 1) v ++
      Value.layOutElements (level + 1) vs ++ newLine level ++ "]"
  | level, .object ((n, v) :: ms) =>
    "\x7b" ++ newLine (level + 1) ++ quoted n ++ ": " ++ Value.layOut (level + 1) v ++
      Value.layOutMembers (level + 1) ms ++ newLine level ++ "\x7d"
  | _, v => scalar v

/-- The elements after the first one, a line each. -/
def Value.layOutElements : Nat → List Value → String
  | _, [] => ""
  | level, v :: vs =>
    "," ++ newLine level ++ Value.layOut level v ++ Value.layOutElements level vs

/-- The members after the first one, a line each. -/
def Value.layOutMembers : Nat → List (String × Value) → String
  | _, [] => ""
  | level, (n, v) :: ms =>
    "," ++ newLine level ++ quoted n ++ ": " ++ Value.layOut level v ++
      Value.layOutMembers level ms

end

/-- A value over several lines. -/
def Value.pretty (v : Value) : String := v.layOut 0

end VoiceSteering.Json
