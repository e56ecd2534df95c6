/-
# Health of backends

A backend that fails several checks in a row keeps its record but loses the active flag, so that
no flow is steered to it; several successes in a row give the flag back.  Each slot of a pool has
its own history of checks, and a history belongs to the endpoint it was collected for.
-/
import VoiceSteering.Backend
import VoiceSteering.Saturating

namespace VoiceSteering

/-- When a backend changes state, and how long one check may take. -/
structure HealthPolicy where
  /-- Length of a check in milliseconds. -/
  timeoutMs : UInt64
  healthyAfter : UInt8
  unhealthyAfter : UInt8
deriving DecidableEq, Repr

/-- The history of checks of one slot. -/
structure SlotHealth where
  /-- The endpoint that is being checked. -/
  target : Option Endpoint := none
  healthy : Bool := true
  /-- Successes in a row, at most 255 of them counted. -/
  successes : UInt8 := 0
  /-- Failures in a row, at most 255 of them counted. -/
  failures : UInt8 := 0
deriving DecidableEq, Repr

namespace SlotHealth

/-- The history of a slot that is not checked. -/
def untracked : SlotHealth := {}

/-- The empty history of an endpoint. -/
def tracking (target : Endpoint) : SlotHealth := { target := some target }

/-- Adds one result to a history.  The second part is the new state if it changed. -/
def record (policy : HealthPolicy) (ok : Bool) (h : SlotHealth) : SlotHealth × Option Bool :=
  if ok then
    let h := { h with successes := Saturating.succ h.successes, failures := 0 }
    if !h.healthy && h.successes ≥ policy.healthyAfter then
      ({ h with healthy := true }, some true)
    else (h, none)
  else
    let h := { h with failures := Saturating.succ h.failures, successes := 0 }
    if h.healthy && h.failures ≥ policy.unhealthyAfter then
      ({ h with healthy := false }, some false)
    else (h, none)

/-- The text of an optional endpoint. -/
def targetText : Option Endpoint → String
  | some e => s!"Some({e.render})"
  | none => "None"

/-- The text of a history. -/
def render (h : SlotHealth) : String :=
  s!"SlotHealth \x7b target: {targetText h.target}, healthy: {toString h.healthy}, " ++
    s!"successes: {h.successes.toNat}, failures: {h.failures.toNat} \x7d"

end SlotHealth

/-- The histories of a pool's slots. -/
abbrev PoolHealth := Vector SlotHealth 16

/-- A slot whose backend came back into rotation or was taken out of it. -/
structure HealthFlip where
  slot : Nat
  target : Option Endpoint
  healthy : Bool
deriving DecidableEq, Repr

namespace PoolHealth

/-- The histories of a pool of which nothing is known. -/
def fresh : PoolHealth := Vector.replicate 16 SlotHealth.untracked

/-! ## What to check -/

/-- The history of a slot brought up to date with its record: it starts over when the endpoint
changed and is dropped when the slot is empty. -/
def follow (h : SlotHealth) (b : Backend) : SlotHealth :=
  match b.endpoint? with
  | none => .untracked
  | some target => if h.target = some target then h else .tracking target

/-- The endpoint to check for a slot whose history is up to date.  A record that is inactive
although its history is healthy was not taken out by a check, so it is left alone. -/
def worthChecking (h : SlotHealth) (b : Backend) : Option Endpoint :=
  if !b.isActive && h.healthy then none else b.endpoint?

/-- The histories brought up to date with a table, and the slots worth checking. -/
def targets (health : PoolHealth) (table : SlotTable) : PoolHealth × List (Nat × Endpoint) :=
  let health := Vector.zipWith follow health table
  let checks := (Vector.zipWith worthChecking health table).toList.mapIdx
    fun slot target => target.map fun target => (slot, target)
  (health, checks.filterMap id)

/-! ## What the results do -/

/-- The state of a pool while results are applied. -/
structure Applied where
  health : PoolHealth
  table : SlotTable
  /-- The flips so far, in order. -/
  flips : List HealthFlip

/-- Whether some slot changed state. -/
def Applied.changed (a : Applied) : Bool := !a.flips.isEmpty

/-- One result for one slot: the new history, the new record and the flip, if any.  A result for
another endpoint than the tracked one is ignored. -/
def settle (policy : HealthPolicy) (ok : Bool) (h : SlotHealth) (b : Backend) :
    SlotHealth × Backend × Option Bool :=
  if h.target ≠ b.endpoint? then (h, b, none)
  else
    match h.record policy ok with
    | (h, some true) => (h, b.activate, some true)
    | (h, some false) => (h, b.deactivate, some false)
    | (h, none) => (h, b, none)

/-- Applies one result.  Slots that no pool has are ignored. -/
def Applied.step (policy : HealthPolicy) (a : Applied) (slot : Nat) (ok : Bool) : Applied :=
  if hs : slot < 16 then
    let (h, b, flip) := settle policy ok a.health[slot] a.table[slot]
    { health := a.health.set slot h
      table := a.table.set slot b
      flips := match flip with
        | some healthy => a.flips ++ [⟨slot, h.target, healthy⟩]
        | none => a.flips }
  else a

/-- Applies results in order. -/
def apply (policy : HealthPolicy) (health : PoolHealth) (table : SlotTable)
    (results : List (Nat × Bool)) : Applied :=
  results.foldl (fun a result => a.step policy result.1 result.2) ⟨health, table, []⟩

end PoolHealth

end VoiceSteering
