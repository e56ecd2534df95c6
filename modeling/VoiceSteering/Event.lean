/-
# Events

What the balancer tells its operator while it runs.  An event has a level, a message and named
fields; its constructors say what happened.
-/
import VoiceSteering.Failure
import VoiceSteering.Snapshot

namespace VoiceSteering

open Kernel (Errno MapError)

/-- How much an event matters. -/
inductive Level where
  | debug
  | info
  | warn
deriving DecidableEq, Repr

def Level.name : Level → String
  | debug => "debug"
  | info => "info"
  | warn => "warn"

/-- The value of a field. -/
inductive FieldValue where
  | text (s : String)
  | integer (n : Int)
  | real (x : Float)

/-- How the packet program is attached to an interface. -/
inductive AttachMode where
  | skb
  | driver
  | hw
deriving DecidableEq, Repr

namespace AttachMode

/-- The name in the command line. -/
def option : AttachMode → String
  | skb => "skb"
  | driver => "driver"
  | hw => "hw"

/-- The name in events. -/
def label : AttachMode → String
  | skb => "Skb"
  | driver => "Driver"
  | hw => "Hw"

/-- The flag of the attach call. -/
def flag : AttachMode → Nat
  | skb => 2
  | driver => 4
  | hw => 8

end AttachMode

/-- Something worth telling. -/
inductive Event where
  | unreachableSlot (u : Config.Unreachable)
  | healthFlip (pool : Pool) (flip : HealthFlip)
  | report (r : Report)
  | poolLoaded (pool : Pool) (active : Nat)
  | poolRebalanced (pool : Pool) (active : Nat)
  | stalePinRemoved (path : String)
  | pinNotRemoved (path : String) (e : FileError)
  | attached (iface : String) (mode : AttachMode) (pinDir : String)
  | detaching (iface : String)
  | countersUnreadable (cause : Failure)
  | swept (scanned removed : Nat)
  | ratesCutShort (cause : MapError)
  | rateNotRemoved (source : Address) (cause : MapError)
  | healthPassFailed (pool : Pool) (cause : Failure)
  | checkFailed (target : Endpoint) (errno : Errno)

namespace Event

def level : Event → Level
  | unreachableSlot _ => .warn
  | healthFlip _ flip => if flip.healthy then .info else .warn
  | report _ => .info
  | poolLoaded _ _ => .info
  | poolRebalanced _ _ => .info
  | stalePinRemoved _ => .debug
  | pinNotRemoved _ _ => .warn
  | attached _ _ _ => .info
  | detaching _ => .info
  | countersUnreadable _ => .warn
  | swept _ _ => .debug
  | ratesCutShort _ => .debug
  | rateNotRemoved _ _ => .debug
  | healthPassFailed _ _ => .warn
  | checkFailed _ _ => .debug

def message : Event → String
  | unreachableSlot _ => "backend sits beyond the selection modulus and will never be chosen"
  | healthFlip _ flip =>
    if flip.healthy then "backend healthy, back in rotation"
    else "backend unhealthy, taken out of rotation"
  | report _ => "stats"
  | poolLoaded _ _ => "backends loaded"
  | poolRebalanced _ _ => "backends rebalanced"
  | stalePinRemoved _ => "removed stale pin"
  | pinNotRemoved _ _ => "failed to remove pin"
  | attached _ _ _ => "attached XDP program, press Ctrl+C to detach"
  | detaching _ => "detaching"
  | countersUnreadable cause => s!"failed to read stats: {cause.oneLine}"
  | swept _ _ => "rate table swept"
  | ratesCutShort _ => "rate map iteration stopped early"
  | rateNotRemoved _ _ => "failed to remove rate record"
  | healthPassFailed _ cause => s!"health pass failed: {cause.oneLine}"
  | checkFailed _ _ => "health check failed"

/-- The field that names a pool. -/
def poolField (pool : Pool) : String × FieldValue := ("pool", .text pool.name)

/-- A field with a natural number. -/
def natField (name : String) (n : Nat) : String × FieldValue := (name, .integer n)

def fields : Event → List (String × FieldValue)
  | unreachableSlot u => [poolField u.pool, natField "slot" u.slot, natField "slots" u.slots]
  | healthFlip pool flip =>
    [poolField pool, natField "slot" flip.slot,
      ("target", .text (SlotHealth.targetText flip.target))]
  | report r =>
    let total (c : Counter) : String × FieldValue :=
      (c.name, .text (toString (r.totals.value c).toNat))
    [("at", .text r.time), total .packets, ("pps", .real r.packetRate), ("bps", .real r.bitRate),
      ("sip_rps", .real r.signalingRate), total .dropped, total .transmitted, total .noBackend]
  | poolLoaded pool active => [poolField pool, natField "active" active]
  | poolRebalanced pool active => [poolField pool, natField "active" active]
  | stalePinRemoved path => [("path", .text path)]
  | pinNotRemoved path e => [("path", .text path), ("err", .text e.message)]
  | attached iface mode pinDir =>
    [("iface", .text iface), ("mode", .text mode.label), ("pin_dir", .text pinDir)]
  | detaching iface => [("iface", .text iface)]
  | countersUnreadable _ => []
  | swept scanned removed => [natField "scanned" scanned, natField "removed" removed]
  | ratesCutShort cause => [("err", .text cause.message)]
  | rateNotRemoved source cause =>
    [natField "addr" source.toNat, ("err", .text cause.message)]
  | healthPassFailed pool _ => [poolField pool]
  | checkFailed target errno =>
    [("target", .text target.render), ("err", .text errno.render)]

end Event

end VoiceSteering
