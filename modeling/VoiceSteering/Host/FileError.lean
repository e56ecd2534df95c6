/-
# File errors

Why something could not be done with a path.  Most paths are refused by the operating system, with
an error number; a path with a NUL character never gets that far.
-/
import VoiceSteering.Kernel.Errno

namespace VoiceSteering

open Kernel (Errno)

/-- Why something could not be done with a path. -/
inductive FileError where
  /-- The operating system refused the path. -/
  | refused (errno : Errno)
  /-- The path has a NUL character, with which a path would end. -/
  | nulInPath
deriving DecidableEq, Repr

namespace FileError

def message : FileError → String
  | refused errno => errno.render
  | nulInPath => "file name contained an unexpected NUL byte"

/-- The error number that stands for the error. -/
def errno : FileError → Errno
  | refused errno => errno
  | nulInPath => .invalidArgument

/-- Whether nothing more is wrong than that there is no such file. -/
def isAbsence (e : FileError) : Bool := e == .refused .noEntry

end FileError

end VoiceSteering
