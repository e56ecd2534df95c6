/-
# Serving

While the packet program is attached, the balancer reports counters, sweeps the rate table and
checks its backends, each by a timer of its own.  No failure of one of these ends the session.
-/
import VoiceSteering.Service.SetUp
import VoiceSteering.Service.Timer

namespace VoiceSteering.Service

open Kernel (Loaded MapId)
open HostAction (tell during runPool)

/-- The maps of a pool with the health of its backends. -/
structure WatchedPool where
  pool : Pool
  backends : MapId
  maglev : MapId
  health : PoolHealth := PoolHealth.fresh

/-- A session: its maps, its timers, and what it remembers from one time to the next. -/
structure Session where
  stats : MapId
  rate : MapId
  sweepPolicy : Rate.SweepPolicy
  reporting : Timer
  sweeping : Option Timer
  checking : Option (Timer × HealthPolicy)
  pools : List WatchedPool
  previous : Snapshot

/-! ## Counters -/

/-- Reads the given counters of all cores. -/
def readCounters (stats : MapId) : List Counter → HostAction (List (List UInt64))
  | [] => return []
  | c :: cs => do
    let h ← get
    match h.kernel.readCounter h.faults stats c with
    | .ok values => return values :: (← readCounters stats cs)
    | .error e => throw (.during (.readCounter c) (.map e))

/-- Takes a snapshot of the counters. -/
def snapshot (stats : MapId) : HostAction Snapshot := do
  let values ← readCounters stats Counter.all
  return .ofCores (← get).instant (Vector.ofFn fun i => values.getD i.val [])

/-- Reports the time since the last snapshot. -/
def report (s : Session) : HostAction Session := do
  match ← HostAction.attempt (snapshot s.stats) with
  | .ok current =>
    tell (.report (current.report s.previous))
    return { s with previous := current }
  | .error cause =>
    tell (.countersUnreadable cause)
    return s

/-! ## Sweeps -/

/-- Removes the records of some sources, one after the other, and counts how many went. -/
def removeRates (rate : MapId) : List Address → HostAction Nat
  | [] => return 0
  | source :: sources => do
    let h ← get
    match h.kernel.removeRate h.faults rate source with
    | .ok kernel =>
      set { h with kernel }
      return (← removeRates rate sources) + 1
    | .error e =>
      tell (.rateNotRemoved source e)
      removeRates rate sources

/-- Sweeps the rate table: collects its records, then removes those that are idle. -/
def sweep (s : Session) : HostAction Unit := do
  let h ← get
  let (records, broken) := h.kernel.listRates h.faults s.rate
  if let some e := broken then tell (.ratesCutShort e)
  let removed ← removeRates s.rate (Rate.expiredSources records h.monotonicNs s.sweepPolicy)
  tell (.swept records.length removed)

/-! ## Health -/

/-- Checks whether endpoints can be reached. -/
def checkAll (targets : List (Nat × Endpoint)) : HostAction (List (Nat × Bool)) := do
  let network := (← get).network
  for (_, e) in targets do
    if let some errno := network.connectError? e then tell (.checkFailed e errno)
  return network.checkAll targets

/-- One health pass over a pool: reads its slots, checks the backends and, when one changed its
state, writes all slots and the look-up table.  The histories change even if writing fails.  Once the
slots have been read, other processes may act on the host. -/
def checkPoolWhile (meanwhile : HostAction Unit)
    (check : List (Nat × Endpoint) → HostAction (List (Nat × Bool))) (policy : HealthPolicy)
    (w : WatchedPool) : HostAction WatchedPool := do
  match ← HostAction.attempt (runPool w.backends w.maglev PoolScript.list) with
  | .error cause =>
    tell (.healthPassFailed w.pool cause)
    return w
  | .ok table =>
    meanwhile
    let (health, targets) := PoolHealth.targets w.health table
    if targets.isEmpty then return { w with health }
    let results ← check targets
    let applied := PoolHealth.apply policy health table results
    applied.flips.forM fun flip => tell (.healthFlip w.pool flip)
    if applied.changed then
      match ← HostAction.attempt
          (runPool w.backends w.maglev (PoolScript.replace applied.table)) with
      | .ok () => tell (.poolRebalanced w.pool applied.table.usableCount)
      | .error cause => tell (.healthPassFailed w.pool cause)
    return { w with health := applied.health }

/-- One health pass over a pool that nothing else happens during. -/
def checkPool (policy : HealthPolicy) (w : WatchedPool) : HostAction WatchedPool :=
  checkPoolWhile (return ()) checkAll policy w

/-! ## Time -/

/-- Does everything that is due. -/
def runDue (s : Session) : HostAction Session := do
  let now := (← get).clockMs
  let mut s := s
  if s.reporting.isDue now then
    s ← report { s with reporting := s.reporting.fired now }
  if let some t := s.sweeping then
    if t.isDue now then
      s := { s with sweeping := some (t.fired now) }
      sweep s
  if let some (t, policy) := s.checking then
    if t.isDue now then
      let pools ← s.pools.mapM (checkPool policy)
      s := { s with checking := some (t.fired now, policy), pools }
  return s

/-- Moves the clock and does everything that is due then. -/
def advance (ms : Nat) (s : Session) : HostAction Session := do
  modify fun h => { h with clockMs := h.clockMs + ms }
  runDue s

/-- Begins to serve: the maps are taken, the timers set, and what is due at once is done. -/
def beginServing (loaded : Loaded) (o : Options) : HostAction Session := do
  let stats ← takeMap loaded Kernel.statsMap .stats
  let rate ← takeMap loaded Kernel.rateMap .rate
  let pools ← Pool.all.mapM fun pool => do
    let backends ← findMap loaded (Kernel.backendMap pool)
    let maglev ← findMap loaded (Kernel.maglevMap pool)
    let _ ← takeMap loaded (Kernel.backendMap pool) .backends
    let _ ← takeMap loaded (Kernel.maglevMap pool) .maglev
    return { pool, backends, maglev : WatchedPool }
  let previous ← snapshot stats
  let now := (← get).clockMs
  runDue {
    stats, rate, pools, previous
    sweepPolicy := o.config.sweepPolicy
    reporting := .later o.config.reportSeconds now
    sweeping := o.config.sweepSeconds?.map (Timer.atOnce · now)
    checking := o.config.healthPolicy?.map fun (every, policy) => (.atOnce every now, policy) }

/-! ## A whole run -/

/-- A run that has been set up. -/
structure Running where
  loaded : Loaded
  options : Options
  session : Session

/-- Starts a run.  If serving cannot begin, the run is taken down again. -/
def start (object : Option Kernel.Object) (o : Options) : HostAction Running := do
  let loaded ← setUp object o
  match ← HostAction.attempt (beginServing loaded o) with
  | .ok session => return { loaded, options := o, session }
  | .error cause =>
    takeDown loaded o (.error cause)
    throw cause

/-- Ends a run. -/
def stop (r : Running) : HostAction Unit := takeDown r.loaded r.options (.ok ())

/-- A whole run, with what happens to the session while it serves.  It is taken down however
serving ends. -/
def run (object : Option Kernel.Object) (o : Options)
    (meanwhile : Session → HostAction Session) : HostAction Unit := do
  let running ← start object o
  match ← HostAction.attempt (meanwhile running.session) with
  | .ok _ => stop running
  | .error cause => takeDown running.loaded running.options (.error cause)

end VoiceSteering.Service
