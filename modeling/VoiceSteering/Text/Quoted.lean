/-
# Quoted texts

Messages show a text found in a document in double quotes.  Quotes and backslashes get a
backslash, four control characters have a letter, and whatever cannot be seen on its own is shown
by its code point.
-/
import VoiceSteering.Text.Extender
import VoiceSteering.Text.Hex
import VoiceSteering.Text.Unprintable

namespace VoiceSteering.Text

/-- The characters that show one character inside quotes. -/
def shown (c : Char) : List Char :=
  if c = '"' then ['\\', '"']
  else if c = '\\' then ['\\', '\\']
  else if c = '\n' then ['\\', 'n']
  else if c = '\r' then ['\\', 'r']
  else if c = '\t' then ['\\', 't']
  else if c = '\x00' then ['\\', '0']
  else if 0x20 ≤ c.toNat ∧ c.toNat < 0x7F then [c]
  else if isExtender c || isUnprintable c then
    '\\' :: 'u' :: '\x7b' :: (hexText 1 c.toNat).toList ++ ['\x7d']
  else [c]

/-- A text in double quotes. -/
def quoted (s : String) : String := String.ofList ('"' :: s.toList.flatMap shown ++ ['"'])

end VoiceSteering.Text
