/-
# Packet counters

Six counters are kept, each a 64-bit word that wraps around.  Every core has its own set; totals
over all cores are 128-bit words.
-/

namespace VoiceSteering

/-- What is counted. -/
inductive Counter where
  /-- Frames received. -/
  | packets
  /-- Octets of the frames received. -/
  | bytes
  /-- Frames classified as signaling. -/
  | signalingRequests
  /-- Frames denied by the rate limit. -/
  | dropped
  /-- Frames sent on to a backend. -/
  | transmitted
  /-- Frames of a balanced class for which no backend could be used. -/
  | noBackend
deriving DecidableEq, Repr

namespace Counter

/-- All counters, in the order of their indices. -/
def all : List Counter := [packets, bytes, signalingRequests, dropped, transmitted, noBackend]

/-- The index of a counter in the counter map. -/
def index : Counter → Fin 6
  | packets => 0
  | bytes => 1
  | signalingRequests => 2
  | dropped => 3
  | transmitted => 4
  | noBackend => 5

def name : Counter → String
  | packets => "packets"
  | bytes => "bytes"
  | signalingRequests => "signaling_requests"
  | dropped => "dropped"
  | transmitted => "transmitted"
  | noBackend => "no_backend"

end Counter

/-- One value for each counter. -/
abbrev Tally (α : Type) := Vector α 6

/-- The value for one counter. -/
def Tally.value {α : Type} (t : Tally α) (c : Counter) : α := t[c.index]

/-- The counters of one core. -/
abbrev Counters := Tally UInt64

namespace Counters

def zero : Counters := Vector.replicate 6 0

/-- The counters with `n` added to one of them, wrapping around. -/
def add (cs : Counters) (c : Counter) (n : UInt64) : Counters :=
  cs.set c.index (Tally.value cs c + n)

end Counters

/-- The sum of the values that the cores hold for one counter, as a 128-bit word. -/
def sumCounter (values : List UInt64) : BitVec 128 :=
  values.foldl (fun total v => total + BitVec.ofNat 128 v.toNat) 0

end VoiceSteering
