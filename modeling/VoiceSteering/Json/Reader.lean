/-
# Reading JSON

The reader follows RFC 8259 and takes one value with blanks around it.  A number without point and
exponent that fits a 64-bit word of either sign is an integer.  Of any other number the first
digits that fit 64 bits are taken as an integer, which is then multiplied or divided once by a
power of ten.
-/
import VoiceSteering.Json.Value
import VoiceSteering.Text.Numeral

namespace VoiceSteering.Json

/-- What a step of the reader found and the characters after it. -/
abbrev Found (α : Type) := Option (α × List Char)

def skipBlanks (cs : List Char) : List Char :=
  cs.dropWhile fun c => c == ' ' || c == '\n' || c == '\r' || c == '\t'

/-! ## Strings -/

/-- The 16-bit unit written by four hexadecimal digits. -/
def unit? (a b c d : Char) : Option Nat := Text.digitsValue? 16 [a, b, c, d]

/-- Whether a unit is the first half of a surrogate pair. -/
def isHighSurrogate (n : Nat) : Bool := 0xD800 ≤ n && n < 0xDC00

/-- Whether a unit is the second half of a surrogate pair. -/
def isLowSurrogate (n : Nat) : Bool := 0xDC00 ≤ n && n < 0xE000

/-- The character that a one-letter escape stands for. -/
def simpleEscape? (c : Char) : Option Char :=
  match c with
  | '"' => some '"'
  | '\\' => some '\\'
  | '/' => some '/'
  | 'b' => some '\x08'
  | 'f' => some '\x0c'
  | 'n' => some '\n'
  | 'r' => some '\r'
  | 't' => some '\t'
  | _ => none

/-- The characters of a string up to its closing quote. -/
def stringBody : List Char → Found (List Char)
  | [] => none
  | '"' :: rest => some ([], rest)
  | '\\' :: 'u' :: a :: b :: c :: d :: '\\' :: 'u' :: e :: f :: g :: h :: rest =>
    match unit? a b c d with
    | none => none
    | some u =>
      if isHighSurrogate u then
        match unit? e f g h with
        | none => none
        | some v =>
          if isLowSurrogate v then
            (stringBody rest).map fun (cs, rest) =>
              (Char.ofNat (0x10000 + (u - 0xD800) * 0x400 + (v - 0xDC00)) :: cs, rest)
          else none
      else if isLowSurrogate u then none
      else (stringBody ('\\' :: 'u' :: e :: f :: g :: h :: rest)).map fun (cs, rest) =>
        (Char.ofNat u :: cs, rest)
  | '\\' :: 'u' :: a :: b :: c :: d :: rest =>
    match unit? a b c d with
    | none => none
    | some u =>
      if isHighSurrogate u || isLowSurrogate u then none
      else (stringBody rest).map fun (cs, rest) => (Char.ofNat u :: cs, rest)
  | '\\' :: c :: rest =>
    match simpleEscape? c with
    | none => none
    | some c => (stringBody rest).map fun (cs, rest) => (c :: cs, rest)
  | c :: rest =>
    if c.toNat < 0x20 || c == '\\' then none
    else (stringBody rest).map fun (cs, rest) => (c :: cs, rest)

/-- A string after its opening quote. -/
def string? (cs : List Char) : Found String :=
  (stringBody cs).map fun (s, rest) => (String.ofList s, rest)

/-! ## Numbers -/

/-- The digits at the front of a text. -/
def digits (cs : List Char) : List Char × List Char := cs.span Char.isDigit

/-- The value of the longest front part of a digit string that fits 64 bits, extending `start`,
and the number of digits that were left out. -/
def significand (start : Nat) : List Char → Nat × Nat
  | [] => (start, 0)
  | d :: ds =>
    let n := start * 10 + (d.toNat - '0'.toNat)
    if n < UInt64.size then significand n ds else (start, ds.length + 1)

/-- `n · 10^e`, by one multiplication or division where the power of ten is a number; nothing for
a number beyond the range. -/
def scaled? (n : Nat) (e : Int) : Option Float :=
  let x := (UInt64.ofNat n).toFloat
  if 0 ≤ e then
    if n = 0 then some x
    else if e ≤ 308 then
      let y := x * Float.ofScientific 1 false e.toNat
      if y.isInf then none else some y
    else none
  else if -308 ≤ e then some (x / Float.ofScientific 1 false (-e).toNat)
  else if -616 ≤ e then
    some (x / Float.ofScientific 1 false 308 / Float.ofScientific 1 false (-e - 308).toNat)
  else some 0

/-- The exponent part of a number, if there is one. -/
def exponent? : List Char → Found Int
  | c :: rest =>
    if c = 'e' ∨ c = 'E' then
      let (negative, rest) := match rest with
        | '+' :: rest => (false, rest)
        | '-' :: rest => (true, rest)
        | _ => (false, rest)
      match digits rest with
      | ([], _) => none
      | (ds, rest) =>
        (Text.digitsValue? 10 ds).map fun n => (if negative then -(n : Int) else n, rest)
    else some (0, c :: rest)
  | [] => some (0, [])

/-- A number without its sign. -/
def magnitude? (negative : Bool) (cs : List Char) : Found Value :=
  let (whole, rest) := digits cs
  if whole.isEmpty || (whole.length > 1 && whole.head? == some '0') then none
  else
    let (n, dropped) := significand 0 whole
    let finish (n : Nat) (e : Int) (rest : List Char) : Found Value :=
      match exponent? rest with
      | none => none
      | some (e', rest) => (scaled? n (e + e')).map fun x =>
        (.float (if negative then -x else x), rest)
    match rest with
    | '.' :: rest' =>
      match digits rest' with
      | ([], _) => none
      | (fraction, rest'') =>
        let (n, left) := significand n fraction
        finish n ((dropped : Int) - ((fraction.length - left : Nat) : Int)) rest''
    | c :: _ =>
      if c = 'e' ∨ c = 'E' then finish n dropped rest else plain n dropped rest
    | [] => plain n dropped rest
where
  /-- A number without point and exponent. -/
  plain (n dropped : Nat) (rest : List Char) : Found Value :=
    if dropped > 0 || (negative && (n = 0 || 0x8000000000000000 < n)) then
      (scaled? n dropped).map fun x => (.float (if negative then -x else x), rest)
    else some (.integer (if negative then -(n : Int) else n), rest)

/-- A number. -/
def number? : List Char → Found Value
  | '-' :: cs => magnitude? true cs
  | cs => magnitude? false cs

/-! ## Values -/

mutual

/-- A value with blanks in front of it.  Each level of nesting uses a unit of fuel, and so does
each element. -/
def value? : (fuel : Nat) → List Char → Found Value
  | 0, _ => none
  | fuel + 1, cs =>
    match skipBlanks cs with
    | 'n' :: 'u' :: 'l' :: 'l' :: rest => some (.null, rest)
    | 't' :: 'r' :: 'u' :: 'e' :: rest => some (.bool true, rest)
    | 'f' :: 'a' :: 'l' :: 's' :: 'e' :: rest => some (.bool false, rest)
    | '"' :: rest => (string? rest).map fun (s, rest) => (.string s, rest)
    | '[' :: rest =>
      match skipBlanks rest with
      | ']' :: rest => some (.array [], rest)
      | rest => (elements? fuel rest).map fun (vs, rest) => (.array vs, rest)
    | '\x7b' :: rest =>
      match skipBlanks rest with
      | '\x7d' :: rest => some (.object [], rest)
      | rest => (members? fuel rest).map fun (ms, rest) => (.ofMembers ms, rest)
    | rest => number? rest

/-- The elements of an array up to its closing bracket. -/
def elements? : (fuel : Nat) → List Char → Found (List Value)
  | 0, _ => none
  | fuel + 1, cs =>
    match value? fuel cs with
    | none => none
    | some (v, rest) =>
      match skipBlanks rest with
      | ']' :: rest => some ([v], rest)
      | ',' :: rest => (elements? fuel rest).map fun (vs, rest) => (v :: vs, rest)
      | _ => none

/-- The members of an object up to its closing brace. -/
def members? : (fuel : Nat) → List Char → Found (List (String × Value))
  | 0, _ => none
  | fuel + 1, cs =>
    match skipBlanks cs with
    | '"' :: rest =>
      match string? rest with
      | none => none
      | some (name, rest) =>
        match skipBlanks rest with
        | ':' :: rest =>
          match value? fuel rest with
          | none => none
          | some (v, rest) =>
            match skipBlanks rest with
            | '\x7d' :: rest => some ([(name, v)], rest)
            | ',' :: rest => (members? fuel rest).map fun (ms, rest) => ((name, v) :: ms, rest)
            | _ => none
        | _ => none
    | _ => none

end

/-- The value that a text holds, nothing else being in it. -/
def read? (text : String) : Option Value :=
  let cs := text.toList
  match value? (cs.length + 1) cs with
  | some (v, rest) => if (skipBlanks rest).isEmpty then some v else none
  | none => none

end VoiceSteering.Json
