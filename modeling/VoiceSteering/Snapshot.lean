/-
# Snapshots of the counters

The counters of all cores, summed at one instant, and what two snapshots say about the time between
them.
-/
import VoiceSteering.Counters
import VoiceSteering.Decimal.Nearest
import VoiceSteering.Json.Printer
import VoiceSteering.Time.Calendar

namespace VoiceSteering

/-- The totals of all counters at one instant. -/
structure Snapshot where
  takenAt : Instant
  totals : Tally (BitVec 128)
deriving DecidableEq, Repr

/-- A duration in seconds. -/
def Duration.toFloat (d : Duration) : Float :=
  Decimal.floatOfNat d.seconds + Decimal.floatOfNat d.nanos / 1e9

/-- A number rounded to one decimal place, a half going away from zero. -/
def roundTenth (x : Float) : Float := (x * 10).round / 10

namespace Snapshot

/-- The snapshot of what every core holds for every counter. -/
def ofCores (takenAt : Instant) (values : Tally (List UInt64)) : Snapshot :=
  ⟨takenAt, values.map sumCounter⟩

def get (s : Snapshot) (c : Counter) : BitVec 128 := s.totals.value c

/-- By how much a counter grew; a counter that went backwards did not grow. -/
def growth (s earlier : Snapshot) (c : Counter) : Nat :=
  (s.get c).toNat - (earlier.get c).toNat

/-- Growth per second, zero when no time passed. -/
def rates (s earlier : Snapshot) (elapsed : Duration) : Tally Float :=
  let seconds := elapsed.toFloat
  if seconds ≤ 0 then Vector.replicate 6 0
  else Vector.ofFn fun i =>
    Decimal.floatOfNat (s.totals[i].toNat - earlier.totals[i].toNat) / seconds

/-- The JSON form.  Totals beyond 64 bits are strings. -/
def toJson (s : Snapshot) : Json.Value :=
  let total (c : Counter) : Json.Value :=
    let n := (s.get c).toNat
    if n < UInt64.size then .integer n else .string (toString n)
  .ofMembers [
    ("timestamp", .string s.takenAt.render),
    ("counters", .ofMembers (Counter.all.map fun c => (c.name, total c)))]

/-- The listing: one counter a line. -/
def listing (s : Snapshot) : List String :=
  Counter.all.map fun c => Text.alignLeft 20 c.name ++ toString (s.get c).toNat

end Snapshot

/-- What is reported about the time between two snapshots. -/
structure Report where
  time : String
  totals : Tally (BitVec 128)
  /-- Packets per second. -/
  packetRate : Float
  /-- Bits per second. -/
  bitRate : Float
  /-- Signaling requests per second. -/
  signalingRate : Float

/-- The report on the time between two snapshots. -/
def Snapshot.report (current previous : Snapshot) : Report :=
  let rates := current.rates previous (current.takenAt.since previous.takenAt)
  { time := current.takenAt.timeText
    totals := current.totals
    packetRate := roundTenth (rates.value .packets)
    bitRate := roundTenth (rates.value .bytes * 8)
    signalingRate := roundTenth (rates.value .signalingRequests) }

end VoiceSteering
