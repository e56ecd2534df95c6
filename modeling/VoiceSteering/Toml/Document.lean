/-
# Reading TOML documents

A document is a sequence of lines: blank lines, comments, keys with values, and headers.  Keys
belong to the table of the header before them.  The reader accepts exactly TOML 1.0 and says
nothing about the place of an error.
-/
import VoiceSteering.Toml.Number
import VoiceSteering.Toml.Text
import VoiceSteering.Toml.Tree

namespace VoiceSteering.Toml

/-! ## Values -/

mutual

/-- A value at a depth of nesting.  Every call uses a unit of fuel. -/
def value? : (fuel depth : Nat) → List Char → Found Value
  | 0, _, _ => none
  | fuel + 1, depth, cs =>
    match cs with
    | '"' :: _ => (string? cs).map fun (s, rest) => (.string s, rest)
    | '\x27' :: _ => (string? cs).map fun (s, rest) => (.string s, rest)
    | '[' :: rest =>
      if depth + 1 < depthLimit then
        (elements? fuel (depth + 1) rest).map fun (vs, rest) => (.array vs, rest)
      else none
    | '\x7b' :: rest =>
      if depth + 1 < depthLimit then
        match skipBlanks rest with
        | '\x7d' :: rest => some (.table [], rest)
        | rest => (pairs? fuel (depth + 1) Branch.blank rest).map fun (t, rest) => (t.toValue, rest)
      else none
    | 't' :: 'r' :: 'u' :: 'e' :: rest => some (.bool true, rest)
    | 'f' :: 'a' :: 'l' :: 's' :: 'e' :: rest => some (.bool false, rest)
    | 'i' :: _ => special? false cs
    | 'n' :: _ => special? false cs
    | _ => numberOrDate? cs

/-- The elements of an array up to its closing bracket, which may follow a comma. -/
def elements? : (fuel depth : Nat) → List Char → Found (List Value)
  | 0, _, _ => none
  | fuel + 1, depth, cs =>
    match skipLines cs.length cs with
    | none => none
    | some (']' :: rest) => some ([], rest)
    | some rest =>
      match value? fuel depth rest with
      | none => none
      | some (v, rest) =>
        match skipLines rest.length rest with
        | some (']' :: rest) => some ([v], rest)
        | some (',' :: rest) =>
          (elements? fuel depth rest).map fun (vs, rest) => (v :: vs, rest)
        | _ => none

/-- The keys and values of an inline table up to its closing brace, added to what is there. -/
def pairs? : (fuel depth : Nat) → Branch → List Char → Found Branch
  | 0, _, _, _ => none
  | fuel + 1, depth, t, cs =>
    match key? cs with
    | some ((path, name), '=' :: rest) =>
      match value? fuel depth (skipBlanks rest) with
      | none => none
      | some (v, rest) =>
        match t.addValue path name v with
        | none => none
        | some t =>
          match skipBlanks rest with
          | '\x7d' :: rest => some (t, rest)
          | ',' :: rest => pairs? fuel depth t rest
          | _ => none
    | _ => none

end

/-! ## Lines -/

/-- Where the table being filled belongs. -/
inductive Place where
  /-- The document itself. -/
  | root
  /-- The table of a header. -/
  | table (path : List String) (name : String)
  /-- The next element of an array of tables. -/
  | element (path : List String) (name : String)
deriving DecidableEq, Repr

/-- The document so far: the tables that are finished and the one being filled. -/
structure Draft where
  root : Branch
  place : Place
  current : Branch

namespace Draft

def blank : Draft := ⟨.blank, .root, .blank⟩

/-- The document with the table being filled put in its place. -/
def close (d : Draft) : Option Branch :=
  match d.place with
  | .root => some d.current
  | .table path name => Branch.closeTable path name d.current d.root
  | .element path name => Branch.closeElement path name d.current d.root

def addValue (d : Draft) (path : List String) (name : String) (v : Value) : Option Draft := do
  let current ← d.current.addValue path name v
  return { d with current }

def openTable (d : Draft) (path : List String) (name : String) : Option Draft := do
  let (current, root) ← Branch.openTable path name (← d.close)
  return ⟨root, .table path name, current⟩

def openElement (d : Draft) (path : List String) (name : String) : Option Draft := do
  let root ← Branch.openElement path name (← d.close)
  return ⟨root, .element path name, .blank⟩

end Draft

/-- What a line that is neither blank nor a comment does to a document. -/
def line? (cs : List Char) (d : Draft) : Option (Draft × List Char) :=
  match cs with
  | '[' :: '[' :: rest =>
    match key? rest with
    | some ((path, name), ']' :: ']' :: rest) => do
      let rest ← lineRest? rest
      return (← d.openElement path name, rest)
    | _ => none
  | '[' :: rest =>
    match key? rest with
    | some ((path, name), ']' :: rest) => do
      let rest ← lineRest? rest
      return (← d.openTable path name, rest)
    | _ => none
  | cs =>
    match key? cs with
    | some ((path, name), '=' :: rest) => do
      let (v, rest) ← value? (rest.length + 1) 0 (skipBlanks rest)
      let rest ← lineRest? rest
      return (← d.addValue path name v, rest)
    | _ => none

/-- Reads lines to the end.  Every line uses a unit of fuel. -/
def lines? : (fuel : Nat) → List Char → Draft → Option Draft
  | 0, _, _ => none
  | fuel + 1, cs, d =>
    match skipBlanks cs with
    | [] => some d
    | '\n' :: rest => lines? fuel rest d
    | '\r' :: '\n' :: rest => lines? fuel rest d
    | '#' :: rest =>
      match lineEnd? (rest.dropWhile isTextual) with
      | some rest => lines? fuel rest d
      | none => none
    | rest =>
      match line? rest d with
      | some (d, rest) => lines? fuel rest d
      | none => none

/-- The table that a document says.  A byte order mark at the front is ignored. -/
def read? (text : String) : Option Value := do
  let cs := match text.toList with
    | '\uFEFF' :: rest => rest
    | cs => cs
  let d ← lines? (cs.length + 1) cs .blank
  return (← d.close).toValue

end VoiceSteering.Toml
