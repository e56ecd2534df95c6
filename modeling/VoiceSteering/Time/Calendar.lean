/-
# Instants and their texts

An instant is a number of seconds since the beginning of 1970 in universal time, with nanoseconds.
Nanoseconds of a second and more belong to a leap second, which is written as second 60.
-/
import VoiceSteering.Config.Basic
import VoiceSteering.Text.Column

namespace VoiceSteering

/-- An instant of universal time. -/
structure Instant where
  seconds : Int
  nanos : Nat := 0
deriving DecidableEq, Repr

/-- A day of the Gregorian calendar. -/
structure CivilDate where
  year : Int
  month : Nat
  day : Nat
deriving DecidableEq, Repr

/-- The date of a day counted from the beginning of 1970.  Days are counted in eras of 400 years
that begin in March, so that a leap day is the last day of its year. -/
def CivilDate.ofDays (days : Int) : CivilDate :=
  let shifted := days + 719468
  let era := shifted / 146097
  let dayOfEra := (shifted % 146097).toNat
  let yearOfEra := (dayOfEra - dayOfEra / 1460 + dayOfEra / 36524 - dayOfEra / 146096) / 365
  let dayOfYear := dayOfEra - (365 * yearOfEra + yearOfEra / 4 - yearOfEra / 100)
  let monthFromMarch := (5 * dayOfYear + 2) / 153
  let day := dayOfYear - (153 * monthFromMarch + 2) / 5 + 1
  let month := if monthFromMarch < 10 then monthFromMarch + 3 else monthFromMarch - 9
  let year := (yearOfEra : Int) + era * 400
  ⟨if month ≤ 2 then year + 1 else year, month, day⟩

namespace Instant

/-- The number of the day. -/
def day (i : Instant) : Int := i.seconds / 86400

/-- The second of the day. -/
def secondOfDay (i : Instant) : Nat := (i.seconds % 86400).toNat

/-- Hours, minutes and seconds. -/
def timeText (i : Instant) : String :=
  let s := i.secondOfDay
  let second := s % 60 + i.nanos / 1000000000
  s!"{Text.zeroPadded 2 (s / 3600)}:{Text.zeroPadded 2 (s / 60 % 60)}:" ++
    Text.zeroPadded 2 second

/-- The fraction of the second with as many digits as it needs, in groups of three. -/
def fractionText (i : Instant) : String :=
  let n := i.nanos % 1000000000
  if n = 0 then ""
  else if n % 1000000 = 0 then "." ++ Text.zeroPadded 3 (n / 1000000)
  else if n % 1000 = 0 then "." ++ Text.zeroPadded 6 (n / 1000)
  else "." ++ Text.zeroPadded 9 n

/-- A year; outside of four digits it has a sign. -/
def yearText (year : Int) : String :=
  if 0 ≤ year ∧ year ≤ 9999 then Text.zeroPadded 4 year.toNat
  else (if year < 0 then "-" else "+") ++ Text.zeroPadded 4 year.natAbs

/-- The text of an instant after RFC 3339. -/
def render (i : Instant) : String :=
  let d := CivilDate.ofDays i.day
  s!"{yearText d.year}-{Text.zeroPadded 2 d.month}-{Text.zeroPadded 2 d.day}T" ++
    s!"{i.timeText}{i.fractionText}+00:00"

/-- The time from one instant to another, zero when it would be negative.  A leap second counts as
passed once the second of the day is another one. -/
def since (later earlier : Instant) : Duration :=
  let s := later.secondOfDay
  let e := earlier.secondOfDay
  let leap : Int :=
    if e < s ∧ 1000000000 ≤ earlier.nanos then 1
    else if s < e ∧ 1000000000 ≤ later.nanos then -1
    else 0
  let seconds : Int := (later.day - earlier.day) * 86400 + (s : Int) - e + leap
  let nanos := seconds * 1000000000 + later.nanos - earlier.nanos
  if nanos < 0 then ⟨0, 0⟩
  else ⟨(nanos / 1000000000).toNat, (nanos % 1000000000).toNat⟩

end Instant

end VoiceSteering
