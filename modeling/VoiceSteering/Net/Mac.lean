/-
# Link-layer addresses

A link-layer address has six octets.  Its text separates them with `:`; the reader also takes
`-`, mixes of the two, digits of either case and surrounding blanks.  Errors quote the text as
it was given and the offending octet as it was found.
-/
import VoiceSteering.Text.Blank
import VoiceSteering.Text.Hex

namespace VoiceSteering

/-- A link-layer address. -/
structure Mac where
  octets : Vector UInt8 6
deriving DecidableEq, Repr

/-- Why a text is not a link-layer address. -/
inductive MacError where
  /-- Fewer than six pieces. -/
  | tooFew (text : String)
  /-- One of the first six pieces is not two hexadecimal digits. -/
  | badOctet (octet text : String)
  /-- More than six pieces. -/
  | tooMany (text : String)
deriving DecidableEq, Repr

namespace MacError

def message : MacError → String
  | tooFew text => s!"MAC address '{text}' has fewer than 6 octets"
  | badOctet octet text => s!"invalid octet '{octet}' in MAC address '{text}'"
  | tooMany text => s!"MAC address '{text}' has more than 6 octets"

end MacError

namespace Mac

/-- The address of six zero octets. -/
def zero : Mac := ⟨Vector.replicate 6 0⟩

/-- Whether a character separates two octets. -/
def isSeparator (c : Char) : Bool := c == ':' || c == '-'

/-- The pieces of a text between its separators; one more than there are separators. -/
def pieces : List Char → List (List Char)
  | [] => [[]]
  | c :: rest =>
    if isSeparator c then [] :: pieces rest
    else match pieces rest with
      | [] => [[c]]
      | piece :: more => (c :: piece) :: more

/-- Reads exactly `n` octets from pieces, complaining about the first piece that does not fit.
The errors quote `text`. -/
def readOctets (text : String) :
    (n : Nat) → List (List Char) → Except MacError { bs : List UInt8 // bs.length = n }
  | 0, [] => .ok ⟨[], rfl⟩
  | 0, _ :: _ => .error (.tooMany text)
  | _ + 1, [] => .error (.tooFew text)
  | n + 1, piece :: more =>
    match Text.octet? piece with
    | none => .error (.badOctet (String.ofList piece) text)
    | some b =>
      match readOctets text n more with
      | .ok ⟨bs, h⟩ => .ok ⟨b :: bs, by simp [h]⟩
      | .error e => .error e

/-- Reads the text of a link-layer address. -/
def read (text : String) : Except MacError Mac :=
  match readOctets text 6 (pieces (Text.strip text.toList)) with
  | .ok ⟨bs, h⟩ => .ok ⟨⟨bs.toArray, by simp [h]⟩⟩
  | .error e => .error e

/-- The text of the octets, joined by colons. -/
def joined : List UInt8 → List Char
  | [] => []
  | [b] => Text.octetText b
  | b :: bs => Text.octetText b ++ ':' :: joined bs

/-- The lowercase text with colons. -/
def render (m : Mac) : String := String.ofList (joined m.octets.toList)

end Mac

end VoiceSteering
