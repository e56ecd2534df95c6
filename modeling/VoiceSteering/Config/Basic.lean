/-
# The operator's configuration

A configuration consists of sections, each with a default for everything, and two lists of
backends.  This file holds the values; reading, writing and checking them are separate.
-/
import VoiceSteering.Backend
import VoiceSteering.Health
import VoiceSteering.Rate.Sweep
import VoiceSteering.Saturating

namespace VoiceSteering

namespace Config

/-- The ports by which traffic is classified. -/
structure Ports where
  signaling : UInt16 := 5060
  signalingTls : UInt16 := 5061
  mediaStart : UInt16 := 10000
  mediaEnd : UInt16 := 20000
  api : UInt16 := 8080
deriving DecidableEq, Repr

/-- The rate limit and the sweeping of its records. -/
structure RateLimit where
  requestsPerWindow : UInt64 := 100000
  windowMs : UInt64 := 1000
  /-- How many sources are tracked at most. -/
  tableCapacity : UInt32 := 1000000
  /-- Seconds between sweeps; zero turns them off. -/
  sweepIntervalSecs : UInt64 := 30
  sweepIdleWindows : UInt64 := 60
deriving DecidableEq, Repr

/-- How slots are selected. -/
structure Selection where
  mode : SelectorMode := .modulo
  signalingSlots : UInt8 := 16
  apiSlots : UInt8 := 16
deriving DecidableEq, Repr

/-- How often counters are reported. -/
structure Reporting where
  intervalSecs : UInt64 := 5
deriving DecidableEq, Repr

/-- How backends are checked. -/
structure Checks where
  enabled : Bool := true
  intervalSecs : UInt64 := 5
  timeoutMs : UInt64 := 2000
  healthyThreshold : UInt8 := 2
  unhealthyThreshold : UInt8 := 3
deriving DecidableEq, Repr

/-- One backend of a pool. -/
structure Entry where
  /-- The slot, or else the position in the list. -/
  slot : Option UInt32 := none
  address : Address
  port : UInt16
  weight : UInt16 := 100
  mac : Option Mac := none
deriving DecidableEq, Repr

end Config

/-- A whole configuration. -/
structure Config where
  ports : Config.Ports := {}
  rateLimit : Config.RateLimit := {}
  selection : Config.Selection := {}
  checksum : ChecksumMode := .offload
  reporting : Config.Reporting := {}
  checks : Config.Checks := {}
  signalingBackends : List Config.Entry := []
  apiBackends : List Config.Entry := []
deriving DecidableEq, Repr

/-- A length of time in whole seconds and nanoseconds below one second. -/
structure Duration where
  seconds : Nat
  nanos : Nat := 0
deriving DecidableEq, Repr

/-- A number of milliseconds. -/
def Duration.ofMillis (ms : Nat) : Duration := ⟨ms / 1000, ms % 1000 * 1000000⟩

namespace Config

/-- The record of a configured backend: active, with its link-layer address if one is given. -/
def Entry.toBackend (e : Entry) : Backend where
  address := e.address
  port := e.port
  weight := e.weight
  mac := e.mac.getD .zero
  flags := match e.mac with
    | some _ => Backend.activeFlag ||| Backend.macFlag
    | none => Backend.activeFlag

/-- The backends of a pool. -/
def entries (c : Config) : Pool → List Entry
  | .signaling => c.signalingBackends
  | .api => c.apiBackends

/-- The configured slot count of a pool. -/
def slots (c : Config) : Pool → UInt8
  | .signaling => c.selection.signalingSlots
  | .api => c.selection.apiSlots

/-- The settings record for the data path.  A window too long for a word of nanoseconds is as long
as a word can tell. -/
def settings (c : Config) : Settings where
  signalingPort := c.ports.signaling
  signalingTlsPort := c.ports.signalingTls
  mediaStart := c.ports.mediaStart
  mediaEnd := c.ports.mediaEnd
  apiPort := c.ports.api
  signalingSlots := c.selection.signalingSlots
  apiSlots := c.selection.apiSlots
  selector := c.selection.mode.toRaw
  checksum := c.checksum.toRaw
  rateLimit := c.rateLimit.requestsPerWindow
  rateWindow := Saturating.mul c.rateLimit.windowMs 1000000

/-- Seconds between reports, at least one. -/
def reportSeconds (c : Config) : Nat := max c.reporting.intervalSecs.toNat 1

/-- Seconds between sweeps, if there are any. -/
def sweepSeconds? (c : Config) : Option Nat :=
  if c.rateLimit.sweepIntervalSecs = 0 then none else some c.rateLimit.sweepIntervalSecs.toNat

/-- Which records a sweep removes. -/
def sweepPolicy (c : Config) : Rate.SweepPolicy :=
  ⟨c.settings.rateWindow, c.rateLimit.sweepIdleWindows⟩

/-- Seconds between health passes and their policy, if backends are checked. -/
def healthPolicy? (c : Config) : Option (Nat × HealthPolicy) :=
  if c.checks.enabled then
    some (c.checks.intervalSecs.toNat,
      ⟨c.checks.timeoutMs, c.checks.healthyThreshold, c.checks.unhealthyThreshold⟩)
  else none

end Config

end VoiceSteering
