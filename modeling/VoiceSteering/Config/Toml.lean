/-
# Configurations as TOML

A configuration file is TOML.  Reading it can fail in three ways, one after the other: the text is
no TOML document, its data do not fit the types of a configuration, or the configuration breaks a
rule.
-/
import VoiceSteering.Config.Check
import VoiceSteering.Config.Sections
import VoiceSteering.Toml.Document

namespace VoiceSteering.Config

mutual

/-- The data of a TOML value. -/
def Datum.ofToml : Toml.Value → Datum
  | .bool b => .bool b
  | .integer n => .integer n
  | .float x => .float x
  | .string s => .string s
  | .dateTime => .dateTime
  | .array vs => .array (Datum.ofTomlElements vs)
  | .tables vs => .tables (Datum.ofTomlElements vs)
  | .table ms => .table (Datum.ofTomlMembers ms)

def Datum.ofTomlElements : List Toml.Value → List Datum
  | [] => []
  | v :: vs => Datum.ofToml v :: Datum.ofTomlElements vs

def Datum.ofTomlMembers : List (String × Toml.Value) → List (String × Datum)
  | [] => []
  | (n, v) :: ms => (n, Datum.ofToml v) :: Datum.ofTomlMembers ms

end

/-- Why a text is not taken as a configuration. -/
inductive ReadError where
  | notToml
  | unfit (e : DataError)
  | invalid (e : Invalid)
deriving DecidableEq, Repr

/-- The configuration that a text says, whether or not it breaks a rule. -/
def decode (text : String) : Except ReadError Config :=
  match Toml.read? text with
  | none => .error .notToml
  | some v =>
    match configSection.read .toml (.ofToml v) with
    | .ok c => .ok c
    | .error e => .error (.unfit e)

/-- The configuration that a text says, with the warnings about it. -/
def read (text : String) : Except ReadError Config × List Unreachable :=
  match decode text with
  | .error e => (.error e, [])
  | .ok c =>
    match c.check with
    | (.ok (), warnings) => (.ok c, warnings)
    | (.error e, warnings) => (.error (.invalid e), warnings)

end VoiceSteering.Config
