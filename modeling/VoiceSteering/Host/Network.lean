/-
# The network

Whether a connection to an endpoint can be made: there has to be a way to it, and something has to
listen there.
-/
import VoiceSteering.Kernel.Errno
import VoiceSteering.Net.Address

namespace VoiceSteering

open Kernel (Errno)

/-- The network as connections see it. -/
structure Network where
  /-- Whether there is a way to any endpoint. -/
  isUp : Bool := true
  listeners : List Endpoint := []
deriving DecidableEq, Repr

namespace Network

/-- The ports below this one are kept for privileged processes. -/
def firstFreePort : Nat := 1024

/-- Something else listens there. -/
def addressInUse : Errno := ⟨98⟩

/-- Nothing can be reached. -/
def unreachable : Errno := ⟨101⟩

/-- Nothing listens at the endpoint. -/
def refused : Errno := ⟨111⟩

/-- Whether one endpoint takes the place of another one: the zero address stands for all addresses,
and the zero port for one that nobody has. -/
def clash (a b : Endpoint) : Bool :=
  a.port ≠ 0 && a.port = b.port && (a.address = b.address || a.address = 0 || b.address = 0)

/-- Listens at an endpoint. -/
def listen (n : Network) (e : Endpoint) : Except Errno Network :=
  if 0 < e.port ∧ e.port.toNat < firstFreePort then .error .permissionDenied
  else if n.listeners.any (clash e) then .error addressInUse
  else .ok { n with listeners := n.listeners ++ [e] }

/-- Listens at several endpoints. -/
def listenAll (n : Network) (es : List Endpoint) : Except Errno Network := es.foldlM listen n

def close (n : Network) (e : Endpoint) : Network :=
  { n with listeners := n.listeners.filter (· ≠ e) }

/-- Why a connection to an endpoint fails, if it does. -/
def connectError? (n : Network) (e : Endpoint) : Option Errno :=
  if !n.isUp then some unreachable
  else if n.listeners.contains e then none
  else some refused

/-- Which of some slots can be reached. -/
def checkAll (n : Network) (targets : List (Nat × Endpoint)) : List (Nat × Bool) :=
  targets.map fun (slot, e) => (slot, (n.connectError? e).isNone)

end Network

end VoiceSteering
