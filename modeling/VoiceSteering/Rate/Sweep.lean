/-
# Sweeping of idle records

The data path never deletes records.  A sweep collects the records, decides which of them have been
idle for too long and then removes those sources one by one.
-/
import VoiceSteering.Rate.Table

namespace VoiceSteering.Rate

/-- When a record counts as idle. -/
structure SweepPolicy where
  window : UInt64
  idleWindows : UInt64
deriving DecidableEq, Repr

/-- The sources whose records have been idle longer than the policy allows, in the order of the
records. -/
def expiredSources (records : Records) (now : UInt64) (policy : SweepPolicy) : List Address :=
  (records.filter fun entry => entry.2.isExpired now policy.window policy.idleWindows).map (·.1)

/-- How many records a sweep looked at, and which sources it removed. -/
structure Swept where
  scanned : Nat
  removed : List Address
deriving DecidableEq, Repr

/-- A sweep that nothing interrupts. -/
def Table.sweep (t : Table) (now : UInt64) (policy : SweepPolicy) : Swept × Table :=
  let expired := expiredSources t.records now policy
  (⟨t.records.length, expired⟩, expired.foldl Table.erase t)

end VoiceSteering.Rate
