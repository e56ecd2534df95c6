/-
# Runtime settings of the data path

The settings are one record of words that the control plane writes and the packet program reads.
The packet program trusts none of them: unknown modes fall back to the first one, and slot counts
that no pool can have count as the whole pool.
-/
import VoiceSteering.Selection

namespace VoiceSteering

/-- The two pools of backends that traffic is balanced over. -/
inductive Pool where
  | signaling
  | api
deriving DecidableEq, Repr

namespace Pool

def name : Pool → String
  | signaling => "signaling"
  | api => "api"

/-- Both pools, in the order in which they are set up and checked. -/
def all : List Pool := [signaling, api]

end Pool

/-- One value for each pool. -/
structure PerPool (α : Type) where
  signaling : α
  api : α
deriving DecidableEq, Repr

namespace PerPool

variable {α : Type}

def get (v : PerPool α) : Pool → α
  | .signaling => v.signaling
  | .api => v.api

def set (v : PerPool α) (pool : Pool) (a : α) : PerPool α :=
  match pool with
  | .signaling => { v with signaling := a }
  | .api => { v with api := a }

@[simp] theorem get_set_self (v : PerPool α) (p : Pool) (a : α) : (v.set p a).get p = a := by
  cases p <;> rfl

theorem get_set_ne (v : PerPool α) {p q : Pool} (a : α) (h : q ≠ p) :
    (v.set p a).get q = v.get q := by
  cases p with
  | signaling =>
    cases q with
    | signaling => exact absurd rfl h
    | api => rfl
  | api =>
    cases q with
    | signaling => rfl
    | api => exact absurd rfl h

end PerPool

/-- How a slot is found for a flow. -/
inductive SelectorMode where
  /-- The word of the flow modulo the number of slots. -/
  | modulo
  /-- The entry of the pool's Maglev table at the word of the flow. -/
  | maglev
deriving DecidableEq, Repr

/-- What happens to checksums when a frame is redirected. -/
inductive ChecksumMode where
  /-- The IPv4 checksum becomes zero and the network card computes it. -/
  | offload
  /-- The IPv4 and transport checksums are adjusted in place. -/
  | incremental
deriving DecidableEq, Repr

namespace SelectorMode

def ofRaw (raw : UInt8) : SelectorMode := if raw = 1 then maglev else modulo

def toRaw : SelectorMode → UInt8
  | modulo => 0
  | maglev => 1

@[simp] theorem ofRaw_toRaw (m : SelectorMode) : ofRaw m.toRaw = m := by cases m <;> rfl

def name : SelectorMode → String
  | modulo => "modulo"
  | maglev => "maglev"

end SelectorMode

namespace ChecksumMode

def ofRaw (raw : UInt8) : ChecksumMode := if raw = 1 then incremental else offload

def toRaw : ChecksumMode → UInt8
  | offload => 0
  | incremental => 1

def name : ChecksumMode → String
  | offload => "offload"
  | incremental => "incremental"

end ChecksumMode

/-- The settings record as it lies in the shared map. -/
structure Settings where
  signalingPort : UInt16 := 5060
  signalingTlsPort : UInt16 := 5061
  mediaStart : UInt16 := 10000
  mediaEnd : UInt16 := 20000
  apiPort : UInt16 := 8080
  signalingSlots : UInt8 := 16
  apiSlots : UInt8 := 16
  selector : UInt8 := 0
  checksum : UInt8 := 0
  /-- Signaling requests admitted per source and window. -/
  rateLimit : UInt64 := 100000
  /-- Length of a window in nanoseconds. -/
  rateWindow : UInt64 := 1000000000
deriving DecidableEq, Repr

namespace Settings

/-- The settings of a record whose words are all zero. -/
def zeroed : Settings := ⟨0, 0, 0, 0, 0, 0, 0, 0, 0, 0, 0⟩

def selectorMode (s : Settings) : SelectorMode := .ofRaw s.selector

def checksumMode (s : Settings) : ChecksumMode := .ofRaw s.checksum

/-- The slot count of a pool as written. -/
def rawSlots (s : Settings) : Pool → UInt8
  | .signaling => s.signalingSlots
  | .api => s.apiSlots

/-- The modulus of a pool, between 1 and 16 whatever the record holds. -/
def slots (s : Settings) (pool : Pool) : Nat :=
  let raw := (s.rawSlots pool).toNat
  if raw = 0 ∨ slotCount < raw then slotCount else raw

theorem slots_pos (s : Settings) (pool : Pool) : 0 < s.slots pool := by
  simp only [slots]
  split
  · decide
  · next hraw => exact Nat.pos_of_ne_zero fun hzero => hraw (.inl hzero)

theorem slots_le (s : Settings) (pool : Pool) : s.slots pool ≤ slotCount := by
  simp only [slots]
  split
  · exact Nat.le_refl slotCount
  · next hraw => exact Nat.not_lt.1 fun hlarge => hraw (.inr hlarge)

end Settings

end VoiceSteering
