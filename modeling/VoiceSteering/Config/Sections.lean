/-
# The sections of a configuration

For every section, the names of its members and what each of them is.  Members that are not
written keep their defaults; a backend must have an address and a port.
-/
import VoiceSteering.Config.Basic
import VoiceSteering.Config.Reading

namespace VoiceSteering.Config

/-- A section that is complete from the start, because everything in it has a default. -/
def defaulted {α : Type} (title : String) (blank : α) (members : List (Member α)) :
    Section α α :=
  { title, blank, members, finish := .ok }

def portsSection : Section Ports Ports := defaulted "struct PortsConfig" {} [
  member "signaling" readWord16 fun v p => { p with signaling := v },
  member "signaling_tls" readWord16 fun v p => { p with signalingTls := v },
  member "media_start" readWord16 fun v p => { p with mediaStart := v },
  member "media_end" readWord16 fun v p => { p with mediaEnd := v },
  member "api" readWord16 fun v p => { p with api := v }]

def rateLimitSection : Section RateLimit RateLimit := defaulted "struct RateLimitConfig" {} [
  member "requests_per_window" readWord64 fun v r => { r with requestsPerWindow := v },
  member "window_ms" readWord64 fun v r => { r with windowMs := v },
  member "table_capacity" readWord32 fun v r => { r with tableCapacity := v },
  member "sweep_interval_secs" readWord64 fun v r => { r with sweepIntervalSecs := v },
  member "sweep_idle_windows" readWord64 fun v r => { r with sweepIdleWindows := v }]

/-- The names of the selector modes. -/
def selectorNames : List (String × SelectorMode) :=
  [SelectorMode.modulo, .maglev].map fun m => (m.name, m)

/-- The names of the checksum modes. -/
def checksumNames : List (String × ChecksumMode) :=
  [ChecksumMode.offload, .incremental].map fun m => (m.name, m)

def selectionSection : Section Selection Selection := defaulted "struct SelectionConfig" {} [
  member "mode" (readChoice selectorNames) fun v s => { s with mode := v },
  member "signaling_slots" readWord8 fun v s => { s with signalingSlots := v },
  member "api_slots" readWord8 fun v s => { s with apiSlots := v }]

def reportingSection : Section Reporting Reporting := defaulted "struct StatsConfig" {} [
  member "report_interval_secs" readWord64 fun v _ => { intervalSecs := v }]

def checksSection : Section Checks Checks := defaulted "struct HealthConfig" {} [
  member "enabled" readBool fun v c => { c with enabled := v },
  member "interval_secs" readWord64 fun v c => { c with intervalSecs := v },
  member "timeout_ms" readWord64 fun v c => { c with timeoutMs := v },
  member "healthy_threshold" readWord8 fun v c => { c with healthyThreshold := v },
  member "unhealthy_threshold" readWord8 fun v c => { c with unhealthyThreshold := v }]

/-- A backend of which not every member may be known yet. -/
structure EntryDraft where
  slot : Option UInt32 := none
  address : Option Address := none
  port : Option UInt16 := none
  weight : UInt16 := 100
  mac : Option Mac := none

/-- The backend of a draft, or the first member that it lacks. -/
def EntryDraft.finish (d : EntryDraft) : Except Missing Entry :=
  match d.address, d.port with
  | none, _ => .error ⟨"address", 1⟩
  | some _, none => .error ⟨"port", 2⟩
  | some address, some port =>
    .ok { slot := d.slot, address, port, weight := d.weight, mac := d.mac }

def entrySection : Section EntryDraft Entry where
  title := "struct BackendEntry"
  blank := {}
  members := [
    member "slot" (readOptional readWord32) fun v e => { e with slot := v },
    member "address" readAddress fun v e => { e with address := some v },
    member "port" readWord16 fun v e => { e with port := some v },
    member "weight" readWord16 fun v e => { e with weight := v },
    member "mac" (readOptional readMac) fun v e => { e with mac := v }]
  finish := EntryDraft.finish

def configSection : Section Config Config := defaulted "struct BalancerConfig" {} [
  member "ports" portsSection.read fun v c => { c with ports := v },
  member "rate_limit" rateLimitSection.read fun v c => { c with rateLimit := v },
  member "selection" selectionSection.read fun v c => { c with selection := v },
  member "checksum" (readChoice checksumNames) fun v c => { c with checksum := v },
  member "stats" reportingSection.read fun v c => { c with reporting := v },
  member "health" checksSection.read fun v c => { c with checks := v },
  member "signaling_backends" (readList entrySection.read) fun v c =>
    { c with signalingBackends := v },
  member "api_backends" (readList entrySection.read) fun v c => { c with apiBackends := v }]

end VoiceSteering.Config
