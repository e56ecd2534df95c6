/-
# The object to load

What is loaded into the kernel: the definitions of seven maps and one packet program.  The packet
program finds its maps by name.
-/
import VoiceSteering.Kernel.Map

namespace VoiceSteering.Kernel

/-- A map definition: its specification and what it is for. -/
structure MapDefinition where
  spec : MapSpec
  role : Role
deriving DecidableEq, Repr

/-- A program definition. -/
structure ProgramDefinition where
  name : String
  /-- Whether the program handles packets at a network interface. -/
  isXdp : Bool
deriving DecidableEq, Repr

/-- An object that can be loaded. -/
structure Object where
  maps : List MapDefinition
  program : Option ProgramDefinition
deriving DecidableEq, Repr

/-! ## Names -/

def rateMap : String := "rate_limit"
def statsMap : String := "stats"
def configMap : String := "lb_config"
def programName : String := "xdp_voice_lb"

/-- The map of a pool's backends. -/
def backendMap : Pool → String
  | .signaling => "sig_backends"
  | .api => "api_backends"

/-- The map of a pool's look-up table. -/
def maglevMap : Pool → String
  | .signaling => "sig_maglev"
  | .api => "api_maglev"

/-- The maps that are pinned, in the order of pinning. -/
def pinnedMaps : List String :=
  [rateMap, backendMap .signaling, backendMap .api, maglevMap .signaling, maglevMap .api,
    statsMap, configMap]

namespace Object

/-- A map definition that fits its role. -/
def define (name : String) (kind : Nat) (role : Role) (maxEntries : Nat) : MapDefinition :=
  ⟨⟨name, kind, Role.keySize, role.valueSize, maxEntries⟩, role⟩

/-- The object of the balancer. -/
def standard : Object where
  maps := [
    define rateMap 9 .rate 1000000,
    define (backendMap .signaling) 2 .backends slotCount,
    define (backendMap .api) 2 .backends slotCount,
    define (maglevMap .signaling) 2 .maglev maglevSize,
    define (maglevMap .api) 2 .maglev maglevSize,
    define statsMap 6 .stats 6,
    define configMap 2 .config 1]
  program := some ⟨programName, true⟩

/-- The object without a map. -/
def dropMap (o : Object) (name : String) : Object :=
  { o with maps := o.maps.filter fun d => d.spec.name ≠ name }

/-- The object with the specification of a map changed. -/
def editMap (o : Object) (name : String) (edit : MapSpec → MapSpec) : Object :=
  { o with maps := o.maps.map fun d =>
      if d.spec.name = name then { d with spec := edit d.spec } else d }

/-- The object with another number of entries for a map. -/
def resize (o : Object) (name : String) (maxEntries : Nat) : Object :=
  o.editMap name fun s => { s with maxEntries }

end Object

end VoiceSteering.Kernel
