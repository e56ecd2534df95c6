/-
# Files and pins

The files that commands see: texts, directories and pins.  A pin is a file that stands for a kernel
map.  Locations are lists of names, seen from the working directory; the working directory itself
and everything above it are directories of which nothing else is known.
-/
import VoiceSteering.Host.FileError
import VoiceSteering.Host.Path
import VoiceSteering.Kernel.State

namespace VoiceSteering

open Kernel (MapId)

/-- What is at a location. -/
inductive FileNode where
  | directory
  | file (content : List UInt8)
  | pin (map : MapId)
deriving DecidableEq, Repr

/-- A location, seen from the working directory. -/
abbrev Location := List String

/-- The files by location. -/
structure FileTree where
  entries : List (Location × FileNode) := []
deriving DecidableEq, Repr

namespace FileTree

/-- Whether a location is the working directory or above it, or the root. -/
def isGround (l : Location) : Bool := l.all fun name => name == ".." || name == "/"

/-- What is at a location. -/
def find? (t : FileTree) (l : Location) : Option FileNode :=
  if isGround l then some .directory else t.entries.lookup l

/-- The tree with something at a location. -/
def put (t : FileTree) (l : Location) (n : FileNode) : FileTree :=
  ⟨t.entries.filter (fun e => e.1 ≠ l) ++ [(l, n)]⟩

/-- The tree without what is at a location. -/
def erase (t : FileTree) (l : Location) : FileTree := ⟨t.entries.filter fun e => e.1 ≠ l⟩

/-- The location above another one. -/
def above (l : Location) : Location :=
  if isGround l then (if l.head? = some "/" then l else ".." :: l) else l.dropLast

/-- Refuses a path that no call takes. -/
def accept (path : String) : Except FileError Unit :=
  if '\x00' ∈ path.toList then .error .nulInPath
  else if Path.longestPath < path.utf8ByteSize then .error (.refused .nameTooLong)
  else .ok ()

/-- The location that a name in a directory leads to. -/
def step (l : Location) (name : String) : Except FileError Location :=
  if Path.longestName < name.utf8ByteSize then .error (.refused .nameTooLong)
  else .ok (if name = ".." then above l else if name = "/" then ["/"] else l ++ [name])

/-- Walks from a directory along names.  Every name but the last has to lead to a directory. -/
def walk (t : FileTree) : Location → List String → Except FileError Location
  | l, [] => .ok l
  | l, name :: names =>
    match t.find? l with
    | some .directory =>
      match step l name with
      | .ok next => t.walk next names
      | .error e => .error e
    | some _ => .error (.refused .notDirectory)
    | none => .error (.refused .noEntry)

/-- The location that a path names, whether or not there is anything.  An empty path names
nothing. -/
def locate (t : FileTree) (path : String) : Except FileError Location := do
  accept path
  if path = "" then throw (.refused .noEntry)
  let l ← t.walk [] (Path.parts path)
  match t.find? l with
  | some .directory | none => return l
  | some _ => if Path.mustBeDirectory path then throw (.refused .notDirectory) else return l

/-- What a path names. -/
def resolve (t : FileTree) (path : String) : Except FileError (Location × FileNode) := do
  let l ← t.locate path
  match t.find? l with
  | some n => return (l, n)
  | none => throw (.refused .noEntry)

/-- The content of a file.  A pin reads as a text that is no document. -/
def readFile (t : FileTree) (path : String) : Except FileError (List UInt8) := do
  match (← t.resolve path).2 with
  | .directory => throw (.refused .isDirectory)
  | .file content => return content
  | .pin _ => return [0]

/-- The map of a pin. -/
def openPin? (t : FileTree) (path : String) : Option MapId :=
  match t.resolve path with
  | .ok (_, .pin map) => some map
  | _ => none

/-- Removes a file. -/
def removeFile (t : FileTree) (path : String) : Except FileError FileTree := do
  match ← t.resolve path with
  | (_, .directory) => throw (.refused .isDirectory)
  | (l, _) => return t.erase l

/-- Makes a directory in one that is there.  It may be there already, but not as a file. -/
def ensureDirectory (t : FileTree) (names : List String) : Except FileError FileTree := do
  let l ← t.walk [] names
  match t.find? l with
  | some .directory => return t
  | some _ => throw (.refused .alreadyExists)
  | none => return t.put l .directory

/-- Makes a directory, whose names are given from the last one to the first one.  Only when nothing
is found on the way to it, the directory above it is made first; those made before a failure
stay. -/
def makeUpwards (t : FileTree) : List String → FileTree × Except FileError Unit
  | [] => (t, .ok ())
  | name :: names =>
    match t.ensureDirectory (name :: names).reverse with
    | .ok t => (t, .ok ())
    | .error e =>
      if e.isAbsence then
        match t.makeUpwards names with
        | (t, .error e) => (t, .error e)
        | (t, .ok ()) =>
          match t.ensureDirectory (name :: names).reverse with
          | .ok t => (t, .ok ())
          | .error e => (t, .error e)
      else (t, .error e)

/-- Makes a directory and the directories above it that are missing. -/
def makeDirectories (t : FileTree) (path : String) : FileTree × Except FileError Unit :=
  match accept path with
  | .error e => (t, .error e)
  | .ok () => t.makeUpwards (Path.parts path).reverse

/-- The tree with something at a path, and directories above it. -/
def plant (t : FileTree) (path : String) (n : FileNode) : FileTree :=
  let names := Path.parts path
  let t := (t.makeUpwards names.dropLast.reverse).1
  match t.walk [] names with
  | .ok l => if (t.find? l).isSome && n = .directory then t else t.put l n
  | .error _ => t

/-- Copies a file to a place, where a new file is made if there is none.  The target is emptied
before the source is read, so a file copied onto itself is empty afterwards.  A new copy of a pin
is a pin for the map given; a pin that is copied over keeps its map. -/
def copyFile (t : FileTree) (source target : String) (newMap : MapId) :
    Except FileError FileTree := do
  let (origin, node) ← t.resolve source
  if node = .directory then throw (.refused .isDirectory)
  let l ← t.locate target
  if Path.mustBeDirectory target then throw (.refused .isDirectory)
  let copy ← match node, t.find? l with
    | _, some .directory => throw (.refused .isDirectory)
    | .pin _, some (.pin map) => pure (.pin map)
    | .pin _, _ => pure (.pin newMap)
    | other, _ => pure other
  return t.put l (if origin = l then .file [] else copy)

/-- Makes a pin for a map. -/
def makePin (t : FileTree) (path : String) (map : MapId) : Except FileError FileTree := do
  let l ← t.locate path
  match t.find? l with
  | some _ => throw (.refused .alreadyExists)
  | none => return t.put l (.pin map)

/-- The names in a directory, in order; nothing if there is no such directory. -/
def names? (t : FileTree) (path : String) : Option (List String) :=
  match t.resolve path with
  | .ok (l, .directory) =>
    let below := t.entries.filterMap fun e =>
      if e.1.length = l.length + 1 && e.1.take l.length == l then e.1.getLast? else none
    some (below.mergeSort (· ≤ ·))
  | _ => none

end FileTree

end VoiceSteering
