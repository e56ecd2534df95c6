/-
# The packet pipeline

A frame is counted, its addressing read, its class decided; signaling passes the rate limit; a
backend is selected for signaling and API traffic and the frame is redirected to it.  Whatever
cannot be handled is passed to the network stack.

The pipeline sees frames through `Frame.Access` and everything else through `Datapath`, so one
definition serves maps in memory and the maps of a kernel.
-/
import VoiceSteering.Backend
import VoiceSteering.Counters
import VoiceSteering.Frame.Checksum
import VoiceSteering.Frame.Header
import VoiceSteering.Rate.Admission

namespace VoiceSteering

open VoiceSteering.Frame (Access Header Transport)

/-- What becomes of a frame. -/
inductive Verdict where
  /-- The frame goes to the network stack. -/
  | pass
  | drop
  /-- The headers point at a backend now and the frame goes out again. -/
  | transmit
deriving DecidableEq, Repr

/-- Kinds of traffic. -/
inductive TrafficClass where
  | signaling
  | media
  | api
  | other
deriving DecidableEq, Repr

namespace TrafficClass

def name : TrafficClass → String
  | signaling => "signaling"
  | media => "media"
  | api => "api"
  | other => "other"

/-- The pool that a class is balanced over. -/
def pool? : TrafficClass → Option Pool
  | signaling => some .signaling
  | api => some .api
  | media | other => none

end TrafficClass

/-- The class of a frame.  Where several rules apply, the first one counts. -/
def classify (h : Header) (settings : Settings) : TrafficClass :=
  let port := h.destinationPort
  match h.transport with
  | .udp =>
    if port = settings.signalingPort then .signaling
    else if settings.mediaStart ≤ port ∧ port ≤ settings.mediaEnd then .media
    else .other
  | .tcp =>
    if port = settings.signalingTlsPort then .signaling
    else if port = settings.apiPort then .api
    else .other
  | .other _ => .other

/-- Everything the pipeline touches besides the frame. -/
class Datapath (σ : Type) extends Rate.Store σ where
  /-- The monotonic clock, in nanoseconds. -/
  now : σ → UInt64
  /-- The record of a slot; nothing if it cannot be read. -/
  backend : σ → Pool → (slot : Nat) → Option Backend
  /-- The entry of a Maglev table; nothing if it cannot be read. -/
  maglevEntry : σ → Pool → (index : Nat) → Option UInt32
  /-- Adds to a counter. -/
  count : σ → Counter → UInt64 → σ

/-! ## Selection -/

section Selection

variable {σ : Type} [Datapath σ]

/-- The slot to which the flow of a frame is steered. -/
def selectSlot (settings : Settings) (pool : Pool) (h : Header) (state : σ) : Option Nat :=
  match settings.selectorMode with
  | .modulo => some (Selection.slot h.source h.sourcePort (settings.slots pool))
  | .maglev =>
    (Datapath.maglevEntry state pool (Selection.maglevIndex h.source h.sourcePort)).bind
      Selection.slotOfEntry

/-- The backend to which a frame is steered, if the slot may receive traffic. -/
def selectBackend (settings : Settings) (pool : Pool) (h : Header) (state : σ) :
    Option Backend :=
  ((selectSlot settings pool h state).bind (Datapath.backend state pool)).filter Backend.isUsable

end Selection

/-! ## Redirection -/

/-- Octets to be stored at an offset. -/
structure Patch where
  offset : Nat
  {size : Nat}
  octets : Vector UInt8 size

section Redirection

variable {φ : Type} [Access φ]

/-- The checksum patch of the transport header.  Transports without a checksum need none, and a
UDP checksum of zero says that the sender left it out. -/
def transportPatches (frame : φ) (h : Header) (old new : Vector UInt8 4) :
    Option (List Patch) :=
  match h.checksumAt? with
  | none => some []
  | some offset => do
    let checksum ← Frame.load16 frame offset
    if h.transport = .udp ∧ checksum = 0 then return []
    let adjusted := Frame.adjustChecksum checksum old new
    let written := if h.transport = .udp ∧ adjusted = 0 then 0xffff else adjusted
    return [⟨offset, Frame.octets16 written⟩]

/-- The patches to the checksums when the destination address changes from `old` to `new`. -/
def checksumPatches (mode : ChecksumMode) (frame : φ) (h : Header) (old new : Vector UInt8 4) :
    Option (List Patch) :=
  match mode with
  | .offload => some [⟨Frame.ipv4ChecksumAt, Frame.octets16 0⟩]
  | .incremental => do
    let checksum ← Frame.load16 frame Frame.ipv4ChecksumAt
    let patches ← transportPatches frame h old new
    return ⟨Frame.ipv4ChecksumAt,
      Frame.octets16 (Frame.adjustChecksum checksum old new)⟩ :: patches

/-- The patches that point a frame at a backend.  All loads happen here, before the first store.
With a known link-layer address the frame goes there from the address it came to; without one it
goes back to the sender's own address. -/
def redirection (mode : ChecksumMode) (frame : φ) (h : Header) (b : Backend) :
    Option (List Patch) := do
  let linkDestination ← Access.load frame Frame.linkDestinationAt 6
  let linkSource ← Access.load frame Frame.linkSourceAt 6
  let old ← Access.load frame Frame.ipv4DestinationAt 4
  let new := Frame.octets32 b.address
  let checksums ← checksumPatches mode frame h old new
  let (toLink, fromLink) := match b.mac? with
    | some mac => (mac.octets, linkDestination)
    | none => (linkSource, linkSource)
  return ⟨Frame.linkDestinationAt, toLink⟩ :: ⟨Frame.linkSourceAt, fromLink⟩ ::
    ⟨Frame.ipv4DestinationAt, new⟩ :: checksums

/-- Applies every patch, also after one was refused, and says whether all were taken. -/
def applyPatches : List Patch → φ → Bool × φ
  | [], frame => (true, frame)
  | p :: ps, frame =>
    match Access.store frame p.offset p.octets with
    | some frame => applyPatches ps frame
    | none => (false, (applyPatches ps frame).2)

/-- Points a frame at a backend and says whether that was completed. -/
def redirect (mode : ChecksumMode) (frame : φ) (h : Header) (b : Backend) : Bool × φ :=
  match redirection mode frame h b with
  | some patches => applyPatches patches frame
  | none => (false, frame)

end Redirection

/-! ## One frame -/

/-- What a frame became, with the state after it. -/
structure Outcome (φ σ : Type) where
  verdict : Verdict
  frame : φ
  state : σ

section Process

variable {φ σ : Type} [Access φ] [Datapath σ]

/-- Steers a frame to a backend of a pool. -/
def balance (settings : Settings) (pool : Pool) (h : Header) (frame : φ) (state : σ) :
    Outcome φ σ :=
  match selectBackend settings pool h state with
  | none => ⟨.pass, frame, Datapath.count state .noBackend 1⟩
  | some b =>
    match redirect settings.checksumMode frame h b with
    | (true, frame) => ⟨.transmit, frame, Datapath.count state .transmitted 1⟩
    | (false, frame) => ⟨.pass, frame, state⟩

/-- The rate limit of the settings. -/
def Settings.limit (s : Settings) : Rate.Limit := ⟨s.rateLimit, s.rateWindow⟩

/-- Steers a frame whose addressing is known. -/
def steer (settings : Settings) (h : Header) (frame : φ) (state : σ) : Outcome φ σ :=
  match classify h settings with
  | .signaling =>
    let state := Datapath.count state .signalingRequests 1
    match Rate.allow state h.source (Datapath.now state) settings.limit with
    | (false, state) => ⟨.drop, frame, Datapath.count state .dropped 1⟩
    | (true, state) => balance settings .signaling h frame state
  | .api => balance settings .api h frame state
  | .media | .other => ⟨.pass, frame, state⟩

/-- Runs one frame through the pipeline. -/
def process (settings : Settings) (frame : φ) (state : σ) : Outcome φ σ :=
  let state := Datapath.count state .packets 1
  let state := Datapath.count state .bytes (UInt64.ofNat (Access.length frame))
  match Header.read? frame with
  | none => ⟨.pass, frame, state⟩
  | some h => steer settings h frame state

end Process

end VoiceSteering
