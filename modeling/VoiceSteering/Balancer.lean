/-
# The balancer in memory

The control plane and the data path together, without a kernel between them: settings, maps and
the health of both pools.  Control-plane operations happen one at a time; each of them leaves every
look-up table built from the slots of its pool.
-/
import VoiceSteering.Config.Toml
import VoiceSteering.Memory

namespace VoiceSteering

/-- The state of a balancer. -/
structure Balancer where
  settings : Settings := {}
  memory : Memory := {}
  health : PerPool PoolHealth := ⟨PoolHealth.fresh, PoolHealth.fresh⟩

namespace Balancer

/-! ## Control plane -/

/-- Puts a configuration into effect: the settings and both pools. -/
def configure (b : Balancer) (c : Config) : Except Config.Invalid Balancer := do
  let signaling ← c.slotTable .signaling
  let api ← c.slotTable .api
  return { b with
    settings := c.settings
    memory := (b.memory.replacePool .signaling signaling).replacePool .api api }

/-- Reads a configuration and puts it into effect. -/
def load (b : Balancer) (text : String) : Except Config.ReadError Balancer :=
  match (Config.read text).1 with
  | .error e => .error e
  | .ok c =>
    match b.configure c with
    | .ok b => .ok b
    | .error e => .error (.invalid e)

/-- Fills or empties a slot. -/
def editSlot (b : Balancer) (pool : Pool) (slot : Nat) (backend : Option Backend) :
    Except SlotError Balancer := do
  let table ← (b.memory.slots.get pool).withSlot slot backend
  return { b with memory := b.memory.replacePool pool table }

/-- The slots of a pool worth checking, with the histories brought up to date. -/
def targets (b : Balancer) (pool : Pool) : Balancer × List (Nat × Endpoint) :=
  let (health, checks) := PoolHealth.targets (b.health.get pool) (b.memory.slots.get pool)
  ({ b with health := b.health.set pool health }, checks)

/-- Applies check results to a pool.  The look-up table is rebuilt when a slot changed state. -/
def applyChecks (b : Balancer) (pool : Pool) (policy : HealthPolicy)
    (results : List (Nat × Bool)) : Balancer × List HealthFlip :=
  let applied := PoolHealth.apply policy (b.health.get pool) (b.memory.slots.get pool) results
  let b := { b with health := b.health.set pool applied.health }
  (if applied.changed then { b with memory := b.memory.replacePool pool applied.table } else b,
    applied.flips)

/-- Sweeps the rate table. -/
def sweep (b : Balancer) (now : UInt64) (policy : Rate.SweepPolicy) : Balancer × Rate.Swept :=
  let (swept, rates) := b.memory.rates.sweep now policy
  ({ b with memory := { b.memory with rates } }, swept)

/-! ## Data path -/

/-- Runs one frame. -/
def receive {φ : Type} [Frame.Access φ] (b : Balancer) (frame : φ) : Balancer × Verdict × φ :=
  let outcome := process b.settings frame b.memory
  ({ b with memory := outcome.state }, outcome.verdict, outcome.frame)

end Balancer

end VoiceSteering
