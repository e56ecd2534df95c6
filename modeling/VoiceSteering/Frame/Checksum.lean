/-
# Checksums under a changed address

The internet checksum of a text of 16-bit words is the complement of their one's-complement sum.
When a 32-bit field covered by it changes, the new checksum follows from the old one and the two
values of the field alone (RFC 1624): subtract the old words and add the new ones, both in
one's-complement arithmetic.
-/
import VoiceSteering.Frame.Words

namespace VoiceSteering.Frame

/-- One step of carry folding: what overflowed 16 bits is added at the low end. -/
def foldCarry (sum : Nat) : Nat := sum % 65536 + sum / 65536

/-- The checksum after a 32-bit field covered by it changed from `old` to `new`. -/
def adjustChecksum (checksum : UInt16) (old new : Vector UInt8 4) : UInt16 :=
  let sum := (65535 - checksum.toNat)
    + (65535 - (halves old).1.toNat) + (65535 - (halves old).2.toNat)
    + (halves new).1.toNat + (halves new).2.toNat
  UInt16.ofNat (65535 - foldCarry (foldCarry sum) % 65536)

end VoiceSteering.Frame
