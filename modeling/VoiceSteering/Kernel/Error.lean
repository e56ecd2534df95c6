/-
# Errors of map access

Before an access to a map its kind and its sizes are compared with what the caller expects, its
index with the number of entries, and only then can the call itself fail.
-/
import VoiceSteering.Kernel.Fault

namespace VoiceSteering.Kernel

/-- Why a map cannot be used or an access to it failed. -/
inductive MapError where
  /-- The map is of a kind that the caller does not handle. -/
  | invalidKind (kind : Nat)
  | invalidKeySize (size expected : Nat)
  | invalidValueSize (size expected : Nat)
  | outOfBounds (index maxEntries : Nat)
  | failed (call : Call) (errno : Errno)
deriving DecidableEq, Repr

namespace MapError

def message : MapError → String
  | invalidKind kind => s!"invalid map type {kind}"
  | invalidKeySize size expected => s!"invalid key size {size}, expected {expected}"
  | invalidValueSize size expected => s!"invalid value size {size}, expected {expected}"
  | outOfBounds index maxEntries =>
    s!"the index is {index} but `max_entries` is {maxEntries}"
  | failed call _ => s!"`{call.name}` failed"

/-- The messages of an error and of its causes, outermost first. -/
def chain (e : MapError) : List String :=
  match e with
  | failed _ errno => [e.message, errno.render]
  | _ => [e.message]

end MapError

end VoiceSteering.Kernel
