/-
# Building tables

A table of a document can be extended from several places: by headers, by headers of tables below
it, and by dotted keys.  A node of the tree remembers how it came about, because that decides what
may still be added to it:

* a table is *implicit* while only tables below it, or dotted keys through it, have named it;
* a table is *dotted* when dotted keys made it.
-/
import VoiceSteering.Toml.Value

namespace VoiceSteering.Toml

mutual

/-- What stands under a name. -/
inductive Node where
  | value (v : Value)
  | table (t : Branch)
  /-- An array of tables with headers, the last one first. -/
  | tables (ts : List Branch)

/-- A table that may still grow. -/
inductive Branch where
  | mk (implicit dotted : Bool) (members : List (String × Node))

end

instance : Inhabited Branch := ⟨.mk false false []⟩

namespace Branch

/-- The table of a header or of the document itself. -/
def blank : Branch := .mk false false []

def isImplicit : Branch → Bool
  | mk implicit _ _ => implicit

def isDotted : Branch → Bool
  | mk _ dotted _ => dotted

def members : Branch → List (String × Node)
  | mk _ _ ms => ms

def withMembers : Branch → List (String × Node) → Branch
  | mk implicit dotted _, ms => mk implicit dotted ms

def find? (t : Branch) (name : String) : Option Node := t.members.lookup name

/-- The table with a node under a name, in the place of the old one or at the end. -/
def put (t : Branch) (name : String) (n : Node) : Branch :=
  let ms := t.members
  if (ms.lookup name).isSome then
    t.withMembers (ms.map fun m => if m.1 = name then (name, n) else m)
  else t.withMembers (ms ++ [(name, n)])

/-- The table without a name. -/
def erase (t : Branch) (name : String) : Branch :=
  t.withMembers (t.members.filter fun m => m.1 ≠ name)

/-- Changes the table at the end of a path, making implicit tables where there are none.  The last
table stands for an array of tables.  A dotted key may only pass through implicit tables. -/
def alter (dotted : Bool) (change : Branch → Option Branch) : List String → Branch → Option Branch
  | [], t => change t
  | name :: path, t =>
    match t.find? name with
    | none => do
      let below ← alter dotted change path (.mk true dotted [])
      return t.put name (.table below)
    | some (.value _) => none
    | some (.tables []) => none
    | some (.tables (last :: others)) => do
      let last ← alter dotted change path last
      return t.put name (.tables (last :: others))
    | some (.table below) =>
      if dotted && !below.isImplicit then none
      else do
        let below ← alter dotted change path below
        return t.put name (.table below)

/-- Adds a value under a key.  A dotted key ends in a table that dotted keys made, and any other
key in one that they did not. -/
def addValue (path : List String) (name : String) (v : Value) (t : Branch) : Option Branch :=
  let add (below : Branch) : Option Branch :=
    if below.isDotted == path.isEmpty then none
    else if (below.find? name).isSome then none
    else some (below.put name (.value v))
  alter true add path t

/-- Takes out the table that a header names, to be filled and put back: it may be there already,
but only because tables below it were named. -/
def openTable (path : List String) (name : String) (t : Branch) : Option (Branch × Branch) :=
  let parent := alter false (fun below => some (below.erase name)) path t
  -- The old node is read off before it is erased.
  match (parent, nodeAt? path name t) with
  | (none, _) => none
  | (some root, none) => some (blank, root)
  | (some root, some (.table old)) =>
    if old.isImplicit && !old.isDotted then some (.mk false false old.members, root) else none
  | (some _, some _) => none
where
  /-- The node under a name in the table at the end of a path. -/
  nodeAt? : List String → String → Branch → Option Node
    | [], name, t => t.find? name
    | step :: path, name, t =>
      match t.find? step with
      | some (.table below) => nodeAt? path name below
      | some (.tables (last :: _)) => nodeAt? path name last
      | _ => none

/-- Puts a filled table under its header. -/
def closeTable (path : List String) (name : String) (filled t : Branch) : Option Branch :=
  alter false (fun below => some (below.put name (.table filled))) path t

/-- Makes room for another table of an array. -/
def openElement (path : List String) (name : String) (t : Branch) : Option Branch :=
  let make (below : Branch) : Option Branch :=
    match below.find? name with
    | none => some (below.put name (.tables []))
    | some (.tables _) => some below
    | some _ => none
  alter false make path t

/-- Adds a filled table to an array. -/
def closeElement (path : List String) (name : String) (filled t : Branch) : Option Branch :=
  let add (below : Branch) : Option Branch :=
    match below.find? name with
    | some (.tables ts) => some (below.put name (.tables (filled :: ts)))
    | _ => none
  alter false add path t

end Branch

/-! ## The finished tree -/

mutual

def Node.toValue : Node → Value
  | .value v => v
  | .table t => t.toValue
  | .tables ts => .tables (Branch.toValues ts).reverse

def Branch.toValue : Branch → Value
  | .mk _ _ ms => .table (Node.toMembers ms)

def Branch.toValues : List Branch → List Value
  | [] => []
  | t :: ts => t.toValue :: Branch.toValues ts

def Node.toMembers : List (String × Node) → List (String × Value)
  | [] => []
  | (name, n) :: ms => (name, n.toValue) :: Node.toMembers ms

end

end VoiceSteering.Toml
