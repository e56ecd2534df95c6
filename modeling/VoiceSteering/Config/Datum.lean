/-
# Data of a document

A configuration is read from one of two document formats.  Both deliver the same kind of data;
they differ in a few rules for reading typed values from them, which make up a `Dialect`.  This
file holds the data, the errors of typed reading with their texts, and the two dialects.
-/
import VoiceSteering.Decimal.Text
import VoiceSteering.Net.Address
import VoiceSteering.Net.Mac
import VoiceSteering.Text.Quoted

namespace VoiceSteering.Config

/-- A value of a document.  The members of a table stand in the order in which they are read. -/
inductive Datum where
  | null
  | bool (b : Bool)
  | integer (n : Int)
  | float (x : Float)
  | string (s : String)
  | dateTime
  | array (elements : List Datum)
  /-- An array whose elements are tables with headers of their own. -/
  | tables (elements : List Datum)
  | table (members : List (String × Datum))
deriving Inhabited

/-- The format that a document was written in, as far as typed reading depends on it. -/
inductive Dialect where
  | toml
  | json
deriving DecidableEq, Repr

/-- Lists alternatives in backquotes. -/
def alternatives : List String → String
  | [] => "there are no fields"
  | [a] => s!"expected `{a}`"
  | [a, b] => s!"expected `{a}` or `{b}`"
  | names => "expected one of " ++ ", ".intercalate (names.map fun n => s!"`{n}`")

namespace Datum

/-- What a message calls a value that does not fit. -/
def describe (dialect : Dialect) : Datum → String
  | null => "null"
  | bool b => s!"boolean `{toString b}`"
  | integer n => s!"integer `{n}`"
  | float x =>
    let layout : Decimal.Layout := match dialect with
      | .toml => .plain
      | .json => .compact
    s!"floating point `{Decimal.render layout x}`"
  | string s => s!"string {Text.quoted s}"
  | dateTime => "map"
  | array _ => "sequence"
  | tables _ => "sequence"
  | table _ => "map"

/-- The name of a value's kind. -/
def kind : Datum → String
  | null => "null"
  | bool _ => "boolean"
  | integer _ => "integer"
  | float _ => "float"
  | string _ => "string"
  | dateTime => "datetime"
  | array _ => "array"
  | tables _ => "array"
  | table _ => "table"

end Datum

/-- Why the data of a document do not fit the types of a configuration. -/
inductive DataError where
  /-- A value of another kind. -/
  | wrongType (found expected : String)
  /-- A value of the right kind that is out of range. -/
  | wrongValue (found expected : String)
  | wrongLength (length : Nat) (expected : String)
  | unknownField (name : String) (fields : List String)
  | missingField (name : String)
  | unknownVariant (name : String) (variants : List String)
  | badAddress
  | badMac (e : MacError)
  /-- An alternative is named by a string or by a table with one member. -/
  | notAVariant
  | variantCount (tooMany : Bool)
  /-- An alternative has no content. -/
  | variantContent (expected : String)
deriving DecidableEq, Repr

def DataError.message : DataError → String
  | wrongType found expected => s!"invalid type: {found}, expected {expected}"
  | wrongValue found expected => s!"invalid value: {found}, expected {expected}"
  | wrongLength length expected => s!"invalid length {length}, expected {expected}"
  | unknownField name fields => s!"unknown field `{name}`, {alternatives fields}"
  | missingField name => s!"missing field `{name}`"
  | unknownVariant name variants => s!"unknown variant `{name}`, {alternatives variants}"
  | badAddress => "invalid IPv4 address syntax"
  | badMac e => e.message
  | notAVariant => "wanted string or table"
  | variantCount tooMany =>
    "wanted exactly 1 element, " ++ (if tooMany then "more than 1 element" else "found 0 elements")
  | variantContent expected => s!"expected {expected}"

end VoiceSteering.Config
