/-
# JSON values

Integers that fit a 64-bit word of either sign are kept exactly; every other number is a
floating-point one.  The members of an object are kept in the order of their names, each name
once.
-/

namespace VoiceSteering.Json

/-- A JSON value. -/
inductive Value where
  | null
  | bool (b : Bool)
  | integer (n : Int)
  | float (x : Float)
  | string (s : String)
  | array (elements : List Value)
  | object (members : List (String × Value))
deriving Inhabited

namespace Value

/-- Adds a member to ordered members; a member of the same name is replaced. -/
def insert (name : String) (v : Value) : List (String × Value) → List (String × Value)
  | [] => [(name, v)]
  | (n, w) :: rest =>
    if name < n then (name, v) :: (n, w) :: rest
    else if name = n then (name, v) :: rest
    else (n, w) :: insert name v rest

/-- The object with the given members, of which the later of two with one name counts. -/
def ofMembers (members : List (String × Value)) : Value :=
  .object (members.foldl (fun ms m => insert m.1 m.2 ms) [])

/-- A member of an object. -/
def get? (v : Value) (name : String) : Option Value :=
  match v with
  | .object members => members.lookup name
  | _ => none

def ofNat (n : Nat) : Value := .integer n

def ofOption {α : Type} (f : α → Value) : Option α → Value
  | some a => f a
  | none => .null

def ofList {α : Type} (f : α → Value) (xs : List α) : Value := .array (xs.map f)

end Value

end VoiceSteering.Json
