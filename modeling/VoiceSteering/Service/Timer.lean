/-
# Timers

A timer fires at its deadline and then one period later again.  When it is noticed late, it fires
once, and the next deadline is one period after that.  No timer waits longer than thirty years.
-/

namespace VoiceSteering.Service

/-- A timer, in milliseconds of the clock. -/
structure Timer where
  period : Nat
  deadline : Nat
deriving DecidableEq, Repr

namespace Timer

/-- How late a timer may be noticed without its later deadlines moving. -/
def tolerance : Nat := 5

/-- Whether a timer fires now. -/
def isDue (t : Timer) (now : Nat) : Bool := t.deadline ≤ now

/-- The longest period: thirty years of 365 days, in seconds. -/
def longestPeriod : Nat := 30 * 365 * 86400

/-- The timer after it fired now. -/
def fired (t : Timer) (now : Nat) : Timer :=
  if t.deadline + tolerance < now then { t with deadline := now + t.period }
  else { t with deadline := t.deadline + t.period }

/-- A timer with a period of seconds that fires at once. -/
def atOnce (seconds now : Nat) : Timer := ⟨min seconds longestPeriod * 1000, now⟩

/-- A timer with a period of seconds that fires after the first period. -/
def later (seconds now : Nat) : Timer := (atOnce seconds now).fired now

end Timer

end VoiceSteering.Service
