/-
# Addressing of IPv4 frames

A frame can be classified when it is Ethernet carrying IPv4, its IPv4 header is at least the
minimum, and, for UDP and TCP, it is the first fragment with a whole transport header.  What the
pipeline needs of such a frame is its two addresses, its transport, its two ports and where the
transport header starts.
-/
import VoiceSteering.Frame.Access
import VoiceSteering.Frame.Words
import VoiceSteering.Net.Address

namespace VoiceSteering.Frame

/-- The protocol carried by an IPv4 packet. -/
inductive Transport where
  | udp
  | tcp
  /-- Any other protocol number.  Such packets have no ports. -/
  | other (protocol : UInt8)
deriving DecidableEq, Repr

/-- The transport with a protocol number. -/
def Transport.ofProtocol (protocol : UInt8) : Transport :=
  if protocol = 17 then .udp else if protocol = 6 then .tcp else .other protocol

/-- Decoded addressing of a frame. -/
structure Header where
  source : Address
  destination : Address
  transport : Transport
  sourcePort : UInt16
  destinationPort : UInt16
  /-- Offset of the transport header within the frame. -/
  transportOffset : Nat
deriving DecidableEq, Repr

/-! ## Offsets -/

/-- Where the destination link-layer address lies. -/
def linkDestinationAt : Nat := 0
/-- Where the source link-layer address lies. -/
def linkSourceAt : Nat := 6
/-- Where the type of the link-layer payload lies. -/
def linkTypeAt : Nat := 12
/-- Where the IPv4 header starts. -/
def ipv4At : Nat := 14
/-- Where the IPv4 header checksum lies. -/
def ipv4ChecksumAt : Nat := 24
/-- Where the IPv4 destination address lies. -/
def ipv4DestinationAt : Nat := 30
/-- The link-layer type of IPv4. -/
def ipv4LinkType : UInt16 := 0x0800
/-- The octets of an IPv4 header without options. -/
def ipv4MinLength : Nat := 20

/-- Where the checksum over the pseudo-header lies, for transports that have one. -/
def Header.checksumAt? (h : Header) : Option Nat :=
  match h.transport with
  | .udp => some (h.transportOffset + 6)
  | .tcp => some (h.transportOffset + 16)
  | .other _ => none

/-! ## Reading -/

variable {φ : Type} [Access φ]

/-- The octet at an offset. -/
def load8 (frame : φ) (offset : Nat) : Option UInt8 := (Access.load frame offset 1).map (·[0])

/-- The big-endian 16-bit word at an offset. -/
def load16 (frame : φ) (offset : Nat) : Option UInt16 := (Access.load frame offset 2).map word16Of

/-- The big-endian 32-bit word at an offset. -/
def load32 (frame : φ) (offset : Nat) : Option UInt32 := (Access.load frame offset 4).map word32Of

/-- The two ports of a transport header of which `headerLength` octets must be there. -/
def ports? (frame : φ) (offset headerLength : Nat) : Option (UInt16 × UInt16) := do
  let _ ← Access.load frame offset headerLength
  halves <$> Access.load frame offset 4

/-- The ports that a transport has.  Later fragments carry payload where the ports would be, so
for UDP and TCP the 13-bit fragment offset has to be zero. -/
def Transport.ports? (transport : Transport) (fragment : UInt16) (frame : φ) (offset : Nat) :
    Option (UInt16 × UInt16) :=
  match transport with
  | .other _ => some (0, 0)
  | .udp => if fragment.toNat % 8192 = 0 then Frame.ports? frame offset 8 else none
  | .tcp => if fragment.toNat % 8192 = 0 then Frame.ports? frame offset 20 else none

/-- The addressing of a frame, if it can be classified. -/
def Header.read? (frame : φ) : Option Header := do
  let linkType ← load16 frame linkTypeAt
  guard (linkType = ipv4LinkType)
  let ip ← Access.load frame ipv4At 20
  guard (ip[0].toNat / 16 = 4)
  let words := ip[0].toNat % 16
  guard (5 ≤ words)
  let transport := Transport.ofProtocol ip[9]
  let transportOffset := ipv4At + 4 * words
  let (sourcePort, destinationPort) ←
    transport.ports? (word16 ip[6] ip[7]) frame transportOffset
  return {
    source := word32 ip[12] ip[13] ip[14] ip[15]
    destination := word32 ip[16] ip[17] ip[18] ip[19]
    transport, sourcePort, destinationPort, transportOffset }

/-- The least number of leading octets of a frame that can be classified on their own. -/
def Octets.shortestHeader? (frame : Octets) : Option Nat :=
  (List.range (frame.length + 1)).find? fun n => (Header.read? (frame.take n)).isSome

end VoiceSteering.Frame
