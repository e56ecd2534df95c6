/-
# Typed reading

Values of fixed types are read from the data of a document.  A section is described by the readers
of its members; it may be written as a table or as the array of its members.  Members are visited
in the order of the document, and the first problem is the error.
-/
import VoiceSteering.Config.Datum

namespace VoiceSteering.Config

/-- Reading of a value that some data may not fit. -/
abbrev Reader (α : Type) := Dialect → Datum → Except DataError α

/-- The error that a value is of the wrong kind. -/
def Datum.mismatch {α : Type} (d : Datum) (dialect : Dialect) (expected : String) :
    Except DataError α :=
  .error (.wrongType (d.describe dialect) expected)

/-! ## Plain values -/

/-- A whole number below a bound, which messages know by the name of a type. -/
def readWord (bound : Nat) (name : String) : Reader Nat
  | dialect, d =>
    match d with
    | .integer n =>
      if 0 ≤ n ∧ n < bound then .ok n.toNat
      else .error (.wrongValue s!"integer `{n}`" name)
    | _ => d.mismatch dialect name

def readWord8 : Reader UInt8 := fun dialect d => UInt8.ofNat <$> readWord UInt8.size "u8" dialect d

def readWord16 : Reader UInt16 := fun dialect d =>
  UInt16.ofNat <$> readWord UInt16.size "u16" dialect d

def readWord32 : Reader UInt32 := fun dialect d =>
  UInt32.ofNat <$> readWord UInt32.size "u32" dialect d

def readWord64 : Reader UInt64 := fun dialect d =>
  UInt64.ofNat <$> readWord UInt64.size "u64" dialect d

def readBool : Reader Bool
  | _, .bool b => .ok b
  | dialect, d => d.mismatch dialect "a boolean"

/-- An address in its dotted text. -/
def readAddress : Reader Address
  | _, .string s =>
    match Address.read? s with
    | some a => .ok a
    | none => .error .badAddress
  | dialect, d => d.mismatch dialect "IPv4 address"

/-- A link-layer address in its text. -/
def readMac : Reader Mac
  | _, .string s =>
    match Mac.read s with
    | .ok m => .ok m
    | .error e => .error (.badMac e)
  | dialect, d => d.mismatch dialect "a string"

/-- A value that may be null. -/
def readOptional {α : Type} (read : Reader α) : Reader (Option α)
  | _, .null => .ok none
  | dialect, d => some <$> read dialect d

/-- A list of values. -/
def readList {α : Type} (read : Reader α) : Reader (List α)
  | dialect, .array ds => ds.mapM (read dialect)
  | dialect, .tables ds => ds.mapM (read dialect)
  | dialect, d => d.mismatch dialect "a sequence"

/-! ## Alternatives -/

/-- The alternative of a given name. -/
def readVariant {α : Type} (variants : List (String × α)) (name : String) :
    Except DataError α :=
  match variants.lookup name with
  | some a => .ok a
  | none => .error (.unknownVariant name (variants.map (·.1)))

/-- The content of an alternative named by a table: there must be none. -/
def readNoContent (dialect : Dialect) (d : Datum) : Except DataError Unit :=
  match dialect with
  | .toml =>
    match d with
    | .tables ds => if ds.isEmpty then .ok () else .error (.variantContent "empty array")
    | .array ds => if ds.isEmpty then .ok () else .error (.variantContent "empty table")
    | .table ms => if ms.isEmpty then .ok () else .error (.variantContent "empty table")
    | d => .error (.variantContent s!"table, found {d.kind}")
  | .json =>
    match d with
    | .null => .ok ()
    | d => d.mismatch .json "unit"

/-- The error about a table that names no or several alternatives. -/
def variantCountError (dialect : Dialect) (tooMany : Bool) : DataError :=
  match dialect with
  | .toml => .variantCount tooMany
  | .json => .wrongValue "map" "map with a single key"

/-- One of several named alternatives: its name, or a table whose only member has its name. -/
def readChoice {α : Type} (variants : List (String × α)) : Reader α
  | _, .string s => readVariant variants s
  | dialect, .table [] => .error (variantCountError dialect false)
  | dialect, .table [(name, content)] => do
    let a ← readVariant variants name
    readNoContent dialect content
    return a
  | dialect, .table _ => .error (variantCountError dialect true)
  | .toml, _ => .error .notAVariant
  | .json, d => d.mismatch .json "string or map"

/-! ## Sections -/

/-- A member of a section, read into a draft of it. -/
structure Member (δ : Type) where
  name : String
  read : Dialect → Datum → δ → Except DataError δ

/-- A member whose value is put into the draft as it is. -/
def member {δ α : Type} (name : String) (read : Reader α) (put : α → δ → δ) : Member δ where
  name := name
  read dialect d draft := (put · draft) <$> read dialect d

/-- A member without which a section is not complete. -/
structure Missing where
  name : String
  position : Nat
deriving DecidableEq, Repr

/-- How a section is read: the draft to start from, what each member does to it, and how the
section comes out of the draft. -/
structure Section (δ α : Type) where
  /-- What messages call the section. -/
  title : String
  blank : δ
  members : List (Member δ)
  finish : δ → Except Missing α

namespace Section

variable {δ α : Type}

/-- The names of the members, in order. -/
def names (s : Section δ α) : List String := s.members.map (·.name)

/-- Reads one member of a table. -/
def readMember (s : Section δ α) (dialect : Dialect) (draft : δ) (m : String × Datum) :
    Except DataError δ :=
  match s.members.find? (·.name == m.1) with
  | some member => member.read dialect m.2 draft
  | none => .error (.unknownField m.1 s.names)

/-- Reads a section from the members of a table. -/
def readTable (s : Section δ α) (dialect : Dialect) (ms : List (String × Datum)) :
    Except DataError α := do
  let draft ← ms.foldlM (s.readMember dialect) s.blank
  match s.finish draft with
  | .ok a => return a
  | .error missing => throw (.missingField missing.name)

/-- Reads a section from the array of its members.  One dialect ignores surplus elements. -/
def readArray (s : Section δ α) (dialect : Dialect) (ds : List Datum) : Except DataError α := do
  let draft ← (s.members.zip ds).foldlM (fun draft (m, d) => m.read dialect d draft) s.blank
  match s.finish draft with
  | .ok a =>
    if dialect = .json ∧ s.members.length < ds.length then
      throw (.wrongLength ds.length "fewer elements in array")
    return a
  | .error missing =>
    throw (.wrongLength missing.position s!"{s.title} with {s.members.length} elements")

/-- Reads a section.  A date does not fit: it counts as a table with a member of its own. -/
def read (s : Section δ α) : Reader α
  | dialect, .table ms => s.readTable dialect ms
  | dialect, .array ds => s.readArray dialect ds
  | dialect, .tables ds => s.readArray dialect ds
  | _, .dateTime => .error (.unknownField "$__toml_private_datetime" s.names)
  | dialect, d => d.mismatch dialect s.title

end Section

end VoiceSteering.Config
