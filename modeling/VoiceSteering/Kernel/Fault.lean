/-
# Calls and faults

The calls into the kernel that can fail, and the faults that make them fail.  A fault names a call
and may be restricted to one map and to one index; it stays until the set of faults is replaced.
-/
import VoiceSteering.Kernel.Errno

namespace VoiceSteering.Kernel

/-- A call that can fail. -/
inductive Call where
  | mapLookup
  | mapUpdate
  | mapDelete
  | mapNextKey
  | pin
  | linkCreate
  | createMap
  | programLoad
  | detach
  /-- A look-up by the packet program itself. -/
  | programLookup
  /-- An insertion by the packet program itself. -/
  | programUpdate
deriving DecidableEq, Repr

namespace Call

def name : Call → String
  | mapLookup => "bpf_map_lookup_elem"
  | mapUpdate => "bpf_map_update_elem"
  | mapDelete => "bpf_map_delete_elem"
  | mapNextKey => "bpf_map_get_next_key"
  | pin => "BPF_OBJ_PIN"
  | linkCreate => "bpf_link_create"
  | createMap => "create_map"
  | programLoad => "BPF_PROG_LOAD"
  | detach => "detach"
  | programLookup => "prog_lookup"
  | programUpdate => "prog_update"

def all : List Call :=
  [mapLookup, mapUpdate, mapDelete, mapNextKey, pin, linkCreate, createMap, programLoad, detach,
    programLookup, programUpdate]

/-- The call of a name. -/
def ofName? (name : String) : Option Call := all.find? fun c => c.name == name

end Call

/-- A call that fails, on every map and index unless it says otherwise. -/
structure Fault where
  call : Call
  map : Option String := none
  index : Option Nat := none
  errno : Errno := ⟨1⟩
deriving DecidableEq, Repr

/-- The faults in force. -/
abbrev Faults := List Fault

/-- The error of a call on a map at an index, if a fault makes it fail. -/
def Faults.error? (faults : Faults) (call : Call) (map : String) (index : Option Nat) :
    Option Errno :=
  (faults.find? fun f =>
    f.call = call && f.map.all (· == map) && f.index.all fun i => index == some i).map (·.errno)

end VoiceSteering.Kernel
