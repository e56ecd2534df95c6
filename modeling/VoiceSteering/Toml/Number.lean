/-
# Numbers and dates of TOML

Integers fit a signed 64-bit word.  They are decimal with an optional sign or written in one of
three other bases without one; digits may be grouped with underscores.  A number with a fraction or
an exponent is a floating-point number.  Dates and times must exist in the calendar.
-/
import VoiceSteering.Decimal.Nearest
import VoiceSteering.Toml.Value
import VoiceSteering.Text.Numeral

namespace VoiceSteering.Toml

/-- The digits after the first one, each of which may have an underscore in front. -/
def digitTail (isDigit : Char → Bool) : List Char → Found (List Char)
  | '_' :: c :: rest =>
    if isDigit c then (digitTail isDigit rest).map fun (ds, rest) => (c :: ds, rest) else none
  | ['_'] => none
  | c :: rest =>
    if isDigit c then (digitTail isDigit rest).map fun (ds, rest) => (c :: ds, rest)
    else some ([], c :: rest)
  | [] => some ([], [])

/-- A run of digits, without its underscores. -/
def digitRun (isDigit : Char → Bool) : List Char → Found (List Char)
  | c :: rest =>
    if isDigit c then (digitTail isDigit rest).map fun (ds, rest) => (c :: ds, rest) else none
  | [] => none

/-- Decimal digits that are a lone zero or start with another digit. -/
def wholeDigits : List Char → Found (List Char)
  | '0' :: rest => some (['0'], rest)
  | cs => digitRun Char.isDigit cs

/-- The integer of digits in a base, if it fits. -/
def integerOf? (negative : Bool) (base : Nat) (ds : List Char) : Option Value :=
  match Text.digitsValue? base ds with
  | none => none
  | some n =>
    let n : Int := if negative then -n else n
    if -0x8000000000000000 ≤ n ∧ n < 0x8000000000000000 then some (.integer n) else none

/-- An integer in another base than ten, after its mark. -/
def basedInteger? (base : Nat) (cs : List Char) : Found Value :=
  match digitRun (fun c => (Text.digitIn? base c).isSome) cs with
  | none => none
  | some (ds, rest) => (integerOf? false base ds).map (·, rest)

/-- `n · 10^e`, rounded to the nearest number.  Exponents far beyond the range are cut off before
any power is computed. -/
def nearest (n : Nat) (e : Int) : Float :=
  let size : Int := (toString n).length
  if n = 0 || e + size < -400 then 0
  else if e + size > 400 then 1 / 0
  else ((Decimal.Ratio.mk n 1).scale 10 e).toFloat

/-- An exponent, if there is one. -/
def exponent? : List Char → Found (Option Int)
  | c :: rest =>
    if c = 'e' ∨ c = 'E' then
      let (negative, rest) := match rest with
        | '+' :: rest => (false, rest)
        | '-' :: rest => (true, rest)
        | _ => (false, rest)
      match digitRun Char.isDigit rest with
      | none => none
      | some (ds, rest) =>
        (Text.digitsValue? 10 ds).map fun n => (some (if negative then -n else n), rest)
    else some (none, c :: rest)
  | [] => some (none, [])

/-- A fraction, if there is one. -/
def fraction? : List Char → Found (Option (List Char))
  | '.' :: rest => (digitRun Char.isDigit rest).map fun (ds, rest) => (some ds, rest)
  | cs => some (none, cs)

/-- A decimal number after its sign.  Only the negative infinity may come out of digits. -/
def decimal? (negative : Bool) (cs : List Char) : Option (Value × List Char) := do
  let (whole, rest) ← wholeDigits cs
  let (fraction, rest) ← fraction? rest
  let (exponent, rest) ← exponent? rest
  match fraction, exponent with
  | none, none => return (← integerOf? negative 10 whole, rest)
  | _, _ =>
    let ds := whole ++ fraction.getD []
    let n ← Text.digitsValue? 10 ds
    let x := nearest n (exponent.getD 0 - (fraction.getD []).length)
    if x.isInf && !negative then none
    else return (.float (if negative then -x else x), rest)

/-- Infinity or the number that is none, after an optional sign. -/
def special? (negative : Bool) : List Char → Found Value
  | 'i' :: 'n' :: 'f' :: rest => some (.float (if negative then -(1 / 0) else 1 / 0), rest)
  | 'n' :: 'a' :: 'n' :: rest => some (.float (0 / 0), rest)
  | _ => none

/-- A number. -/
def number? (cs : List Char) : Found Value :=
  match cs with
  | '0' :: 'x' :: rest => basedInteger? 16 rest
  | '0' :: 'o' :: rest => basedInteger? 8 rest
  | '0' :: 'b' :: rest => basedInteger? 2 rest
  | '+' :: rest => (special? false rest).orElse fun _ => decimal? false rest
  | '-' :: rest => (special? true rest).orElse fun _ => decimal? true rest
  | _ => decimal? false cs

/-! ## Dates and times -/

/-- The number written by exactly `width` digits, if it lies between two bounds. -/
def field? (width low high : Nat) (cs : List Char) : Found Nat :=
  let ds := cs.take width
  if ds.length = width && ds.all Char.isDigit then
    match Text.digitsValue? 10 ds with
    | some n => if low ≤ n ∧ n ≤ high then some (n, cs.drop width) else none
    | none => none
  else none

/-- What follows a character. -/
def after? (c : Char) : List Char → Option (List Char)
  | d :: rest => if c = d then some rest else none
  | [] => none

/-- How many days a month has. -/
def daysIn (year month : Nat) : Nat :=
  if month = 2 then
    if year % 4 = 0 ∧ (year % 100 ≠ 0 ∨ year % 400 = 0) then 29 else 28
  else if month = 4 ∨ month = 6 ∨ month = 9 ∨ month = 11 then 30
  else 31

/-- What follows a date. -/
def date? (cs : List Char) : Option (List Char) := do
  let (year, rest) ← field? 4 0 9999 cs
  let rest ← after? '-' rest
  let (month, rest) ← field? 2 1 12 rest
  let rest ← after? '-' rest
  let (_, rest) ← field? 2 1 (daysIn year month) rest
  return rest

/-- What follows a time of day. -/
def time? (cs : List Char) : Option (List Char) := do
  let (_, rest) ← field? 2 0 23 cs
  let rest ← after? ':' rest
  let (_, rest) ← field? 2 0 59 rest
  let rest ← after? ':' rest
  let (_, rest) ← field? 2 0 60 rest
  match rest with
  | '.' :: rest' =>
    match rest'.span Char.isDigit with
    | ([], _) => return rest
    | (_, rest') => return rest'
  | _ => return rest

/-- What follows an offset from universal time, if there is one. -/
def offset? : List Char → Option (List Char)
  | 'Z' :: rest => some rest
  | 'z' :: rest => some rest
  | c :: rest =>
    if c = '+' ∨ c = '-' then do
      let (_, rest) ← field? 2 0 23 rest
      let rest ← after? ':' rest
      let (_, rest) ← field? 2 0 59 rest
      return rest
    else some (c :: rest)
  | [] => some []

/-- Whether some characters start like a time of day. -/
def startsTime (cs : List Char) : Bool :=
  match field? 2 0 23 cs with
  | some (_, ':' :: _) => true
  | _ => false

/-- What follows a date with an optional time. -/
def dateTime? (cs : List Char) : Option (List Char) := do
  let rest ← date? cs
  match rest with
  | c :: rest' =>
    if (c = 'T' ∨ c = 't' ∨ c = ' ') ∧ startsTime rest' then offset? (← time? rest')
    else return rest
  | [] => return []

/-- A number, a date or a time. -/
def numberOrDate? (cs : List Char) : Found Value :=
  let ds := cs.takeWhile Char.isDigit
  match ds.length, cs.drop ds.length with
  | 4, '-' :: _ => (dateTime? cs).map (.dateTime, ·)
  | 2, ':' :: _ => (time? cs).map (.dateTime, ·)
  | _, _ => number? cs

end VoiceSteering.Toml
