/-
# IPv4 addresses

An address is the 32-bit number whose most significant octet comes first in the dotted text.
The reader is strict: four decimal octets without leading zeros and nothing else, so every
address has exactly one text.
-/
import VoiceSteering.Frame.Words
import VoiceSteering.Text.Numeral

namespace VoiceSteering

/-- An IPv4 address as a number. -/
abbrev Address := UInt32

namespace Address

/-- The four octets, most significant first, as in a header field. -/
def octets (a : Address) : Vector UInt8 4 := Frame.octets32 a

/-- The address with the given octets. -/
def ofOctets (v : Vector UInt8 4) : Address := Frame.word32Of v

theorem ofOctets_octets (a : Address) : ofOctets a.octets = a := Frame.word32Of_octets32 a

/-- The dotted text of an address. -/
def render (a : Address) : String :=
  ".".intercalate (a.octets.toList.map fun b => toString b.toNat)

/-- An octet in decimal: at most three digits, no leading zero, below 256. -/
def octet? (digits : List Char) : Option UInt8 :=
  if digits.length > 3 then none
  else if digits.length > 1 && digits.head? == some '0' then none
  else match Text.numeral? digits with
    | some n => if n < 256 then some n.toUInt8 else none
    | none => none

/-- The pieces of a text between its dots. -/
def pieces : List Char → List (List Char)
  | [] => [[]]
  | c :: rest =>
    if c = '.' then [] :: pieces rest
    else match pieces rest with
      | [] => [[c]]
      | piece :: more => (c :: piece) :: more

/-- The address written by a dotted text. -/
def read? (text : String) : Option Address :=
  match (pieces text.toList).mapM octet? with
  | some [a, b, c, d] => some (ofOctets #v[a, b, c, d])
  | _ => none

end Address

/-- Where a service listens: an address and a port. -/
structure Endpoint where
  address : Address
  port : UInt16
deriving DecidableEq, Repr

/-- The text `address:port`. -/
def Endpoint.render (e : Endpoint) : String :=
  Address.render e.address ++ ":" ++ toString e.port.toNat

/-- The endpoint written as `address:port`. -/
def Endpoint.read? (text : String) : Option Endpoint :=
  match text.splitOn ":" with
  | [host, digits] =>
    match Address.read? host, Text.numeral? digits.toList with
    | some a, some p => if p < 65536 then some ⟨a, p.toUInt16⟩ else none
    | _, _ => none
  | _ => none

end VoiceSteering
