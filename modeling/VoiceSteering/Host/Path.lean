/-
# Paths

Paths are texts with `/` between their parts.  Joining and splitting them keeps the text that was
given, because messages quote it.
-/

namespace VoiceSteering.Path

/-- A path with a name added. -/
def join (directory name : String) : String :=
  if directory = "" then name
  else if directory.endsWith "/" then directory ++ name
  else directory ++ "/" ++ name

/-- The characters of a directory, last one first, without what does not change its meaning. -/
def trimmedReverse : List Char → List Char
  | ['/'] => ['/']
  | ['/', '.'] => ['/', '.']
  | '/' :: rest => trimmedReverse rest
  | '.' :: '/' :: rest => trimmedReverse ('/' :: rest)
  | cs => cs

/-- The directory of a joined path: the directory that was given, without slashes and references
to itself at the end. -/
def parentOfJoin (directory : String) : String :=
  String.ofList (trimmedReverse directory.toList.reverse).reverse

/-- The parts of a path.  An absolute path starts with the part `/`. -/
def parts (path : String) : List String :=
  let names := ((path.toList.splitOn '/').map String.ofList).filter fun name =>
    name ≠ "" && name ≠ "."
  if path.startsWith "/" then "/" :: names else names

/-- The greatest number of bytes in a name. -/
def longestName : Nat := 255

/-- The greatest number of bytes in a path. -/
def longestPath : Nat := 4095

/-- Whether a path can only name a directory. -/
def mustBeDirectory (path : String) : Bool := path.endsWith "/" || path.endsWith "/."

end VoiceSteering.Path
