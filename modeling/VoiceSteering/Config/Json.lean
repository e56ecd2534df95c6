/-
# Configurations as JSON

The JSON form of a configuration has every member, in the order of their names, with null for a
slot or a link-layer address that is not given.
-/
import VoiceSteering.Config.Sections
import VoiceSteering.Json.Value

namespace VoiceSteering.Config

open Json (Value)

/-! ## Writing -/

def word (n : Nat) : Value := .integer n

def Ports.toJson (p : Ports) : Value := .object [
  ("api", word p.api.toNat),
  ("media_end", word p.mediaEnd.toNat),
  ("media_start", word p.mediaStart.toNat),
  ("signaling", word p.signaling.toNat),
  ("signaling_tls", word p.signalingTls.toNat)]

def RateLimit.toJson (r : RateLimit) : Value := .object [
  ("requests_per_window", word r.requestsPerWindow.toNat),
  ("sweep_idle_windows", word r.sweepIdleWindows.toNat),
  ("sweep_interval_secs", word r.sweepIntervalSecs.toNat),
  ("table_capacity", word r.tableCapacity.toNat),
  ("window_ms", word r.windowMs.toNat)]

def Selection.toJson (s : Selection) : Value := .object [
  ("api_slots", word s.apiSlots.toNat),
  ("mode", .string s.mode.name),
  ("signaling_slots", word s.signalingSlots.toNat)]

def Reporting.toJson (r : Reporting) : Value := .object [
  ("report_interval_secs", word r.intervalSecs.toNat)]

def Checks.toJson (c : Checks) : Value := .object [
  ("enabled", .bool c.enabled),
  ("healthy_threshold", word c.healthyThreshold.toNat),
  ("interval_secs", word c.intervalSecs.toNat),
  ("timeout_ms", word c.timeoutMs.toNat),
  ("unhealthy_threshold", word c.unhealthyThreshold.toNat)]

def Entry.toJson (e : Entry) : Value := .object [
  ("address", .string (Address.render e.address)),
  ("mac", .ofOption (fun m => .string m.render) e.mac),
  ("port", word e.port.toNat),
  ("slot", .ofOption (fun s => word s.toNat) e.slot),
  ("weight", word e.weight.toNat)]

def toJson (c : Config) : Value := .object [
  ("api_backends", .ofList Entry.toJson c.apiBackends),
  ("checksum", .string c.checksum.name),
  ("health", c.checks.toJson),
  ("ports", c.ports.toJson),
  ("rate_limit", c.rateLimit.toJson),
  ("selection", c.selection.toJson),
  ("signaling_backends", .ofList Entry.toJson c.signalingBackends),
  ("stats", c.reporting.toJson)]

/-! ## Reading -/

mutual

/-- The data of a JSON value. -/
def Datum.ofJson : Value → Datum
  | .null => .null
  | .bool b => .bool b
  | .integer n => .integer n
  | .float x => .float x
  | .string s => .string s
  | .array vs => .array (Datum.ofElements vs)
  | .object ms => .table (Datum.ofMembers ms)

def Datum.ofElements : List Value → List Datum
  | [] => []
  | v :: vs => Datum.ofJson v :: Datum.ofElements vs

def Datum.ofMembers : List (String × Value) → List (String × Datum)
  | [] => []
  | (n, v) :: ms => (n, Datum.ofJson v) :: Datum.ofMembers ms

end

/-- The configuration of a JSON value. -/
def ofJson (v : Value) : Except DataError Config := configSection.read .json (.ofJson v)

end VoiceSteering.Config
