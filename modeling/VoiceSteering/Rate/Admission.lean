/-
# Admission of signaling requests

A source may send a number of requests per window.  Its record holds how many requests were
admitted since the window opened and when that was.  The first request opens a window; a request
later than the window's length after the opening opens the next one.

The decision on a record is a function of its own, apart from how the record is read and written:
several cores may read one record before either of them writes it back.
-/
import VoiceSteering.Saturating
import VoiceSteering.Net.Address

namespace VoiceSteering.Rate

/-- The counter of one source. -/
structure Record where
  count : UInt64
  /-- When the window opened, in nanoseconds. -/
  windowStart : UInt64
deriving DecidableEq, Repr

/-- The budget of a window and its length in nanoseconds. -/
structure Limit where
  requests : UInt64
  window : UInt64
deriving DecidableEq, Repr

/-- The record of a source whose first request of a window comes now. -/
def Record.opened (now : UInt64) : Record := ⟨1, now⟩

/-- The record to write back when a request is admitted now, nothing when it is denied. -/
def Record.allow? (limit : Limit) (now : UInt64) (r : Record) : Option Record :=
  if Saturating.sub now r.windowStart > limit.window then some (.opened now)
  else if r.count ≥ limit.requests then none
  else some { r with count := r.count + 1 }

/-- Whether a record has been idle for more than a number of windows, at least one. -/
def Record.isExpired (r : Record) (now window idleWindows : UInt64) : Bool :=
  Saturating.sub now r.windowStart > Saturating.mul window (max idleWindows 1)

/-- Storage of the records of all sources.  A look-up may change the store, for instance the order
in which it evicts; an insertion may be refused. -/
class Store (τ : Type) where
  lookup : τ → Address → Option Record × τ
  /-- Overwrites the record that the last look-up found. -/
  update : τ → Address → Record → τ
  /-- Adds a record and says whether the store took it. -/
  insert : τ → Address → Record → Bool × τ

/-- Whether a request of a source is admitted now.  A source without a record is admitted whether
or not the store takes its first one. -/
def allow {τ : Type} [Store τ] (store : τ) (source : Address) (now : UInt64) (limit : Limit) :
    Bool × τ :=
  match Store.lookup store source with
  | (some r, store) =>
    match r.allow? limit now with
    | some r' => (true, Store.update store source r')
    | none => (false, store)
  | (none, store) => (true, (Store.insert store source (.opened now)).2)

end VoiceSteering.Rate
