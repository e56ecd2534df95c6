/-
# Where flows go

A frame is sent on only to a usable backend of the pool of its class, and the slot of that backend
is a function of the settings, of the look-up table of the pool and of the flow, which is the source
address and source port.  `FlowSlot` is that function, and nothing else enters it: neither the
transport nor the destination of the frame nor what the rate limit remembers of its source.  So all
frames of a flow that are sent on in one pool go to one address while settings and maps stay.

None of this needs the words of the settings or the maps to make sense.
-/
import VoiceSteering.Proofs.Pipeline.InMemory
import VoiceSteering.Proofs.Pipeline.Redirection

namespace VoiceSteering

open VoiceSteering.Frame (Header Octets load32)

/-! ### The slot of a flow -/

/-- The slot in which a pool keeps the backend of a flow. -/
structure FlowSlot (settings : Settings) (m : Memory) (pool : Pool) (source : Address)
    (port : UInt16) (slot : ℕ) : Prop where
  modulo : settings.selectorMode = .modulo →
    slot = (Selection.mix source port).toNat % settings.slots pool ∧ slot < settings.slots pool
  maglev : settings.selectorMode = .maglev →
    ∃ entry, (m.maglev.get pool)[(Selection.mix source port).toNat % 4099]? = some entry ∧
      slot = entry.toNat ∧ slot < 16

lemma FlowSlot.unique {settings : Settings} {m m' : Memory} {pool : Pool} {source : Address}
    {port : UInt16} {slot slot' : ℕ} (h : FlowSlot settings m pool source port slot)
    (h' : FlowSlot settings m' pool source port slot') (hmaglev : m'.maglev = m.maglev) :
    slot' = slot := by
  cases hmode : settings.selectorMode with
  | modulo => exact (h'.modulo hmode).1.trans (h.modulo hmode).1.symm
  | maglev =>
    obtain ⟨entry, hentry, hslot, -⟩ := h.maglev hmode
    obtain ⟨entry', hentry', hslot', -⟩ := h'.maglev hmode
    rw [hmaglev, hentry] at hentry'
    rw [hslot, hslot', Option.some_inj.1 hentry']

lemma Selection.slotOfEntry_eq_some_iff {entry : UInt32} {slot : ℕ} :
    slotOfEntry entry = some slot ↔ slot = entry.toNat ∧ slot < 16 := by
  rw [slotOfEntry, Option.ite_none_right_eq_some, Option.some_inj]
  constructor
  · rintro ⟨hlt, rfl⟩
    exact ⟨rfl, hlt⟩
  · rintro ⟨rfl, hlt⟩
    exact ⟨hlt, rfl⟩

section Selection

variable {settings : Settings} {pool : Pool} {h : Header}

lemma selectBackend_eq_some_iff {σ : Type} [Datapath σ] {state : σ} {b : Backend} :
    selectBackend settings pool h state = some b ↔
      ∃ slot, selectSlot settings pool h state = some slot ∧
        Datapath.backend state pool slot = some b ∧ b.isUsable = true := by
  rw [selectBackend, Option.filter_eq_some_iff, Option.bind_eq_some_iff]
  constructor
  · rintro ⟨⟨slot, hslot, hb⟩, husable⟩
    exact ⟨slot, hslot, hb, husable⟩
  · rintro ⟨slot, hslot, hb, husable⟩
    exact ⟨⟨slot, hslot, hb⟩, husable⟩

lemma flowSlot_of_selectSlot {m : Memory} {slot : ℕ}
    (hslot : selectSlot settings pool h m = some slot) :
    FlowSlot settings m pool h.source h.sourcePort slot := by
  rw [selectSlot] at hslot
  refine ⟨fun hmode => ?_, fun hmode => ?_⟩
  · rw [hmode] at hslot
    obtain rfl := Option.some_inj.1 hslot
    exact ⟨rfl, Nat.mod_lt _ (settings.slots_pos pool)⟩
  · rw [hmode] at hslot
    obtain ⟨entry, hentry, hslot⟩ := Option.bind_eq_some_iff.1 hslot
    exact ⟨entry, hentry, Selection.slotOfEntry_eq_some_iff.1 hslot⟩

end Selection

/-! ### Frames that are sent on -/

/-- The frame with header `h` was balanced over a pool, and it points now at the backend `b` in the
slot of its flow. -/
structure SentTo (settings : Settings) (m : Memory) (sent : Octets) (h : Header) (pool : Pool)
    (slot : ℕ) (b : Backend) : Prop where
  balanced : (classify h settings).pool? = some pool
  flowSlot : FlowSlot settings m pool h.source h.sourcePort slot
  backend : (m.slots.get pool)[slot]? = some b
  active : b.isActive = true
  address_ne_zero : b.address ≠ 0
  destination : load32 sent Frame.ipv4DestinationAt = some b.address

lemma Redirected.load32_destination {mode : ChecksumMode} {h : Header} {b : Backend}
    {before after : Octets} (hred : Redirected mode h b before after) :
    load32 after Frame.ipv4DestinationAt = some b.address :=
  Option.map_eq_some_iff.2 ⟨_, hred.address, Frame.word32Of_octets32 b.address⟩

lemma sentTo_of_selectBackend {settings : Settings} {m : Memory} {sent : Octets} {h : Header}
    {pool : Pool} {b : Backend} (hpool : (classify h settings).pool? = some pool)
    (hsome : selectBackend settings pool h m = some b)
    (hdestination : load32 sent Frame.ipv4DestinationAt = some b.address) :
    ∃ slot, SentTo settings m sent h pool slot b := by
  obtain ⟨slot, hslot, hb, husable⟩ := selectBackend_eq_some_iff.1 hsome
  obtain ⟨hactive, haddress⟩ := Backend.isUsable_iff.1 husable
  exact ⟨slot, hpool, flowSlot_of_selectSlot hslot, hb, hactive, haddress, hdestination⟩

lemma exists_sentTo {settings : Settings} {m : Memory} {frame : Octets}
    (hsent : (process settings frame m).verdict = .transmit) :
    ∃ h pool slot b, Header.read? frame = some h ∧
      SentTo settings m (process settings frame m).frame h pool slot b := by
  obtain ⟨h, pool, s, b, hread, hhanded, hsome, hred, -⟩ := exists_redirected hsent
  -- counting and the rate check leave the maps alone that a backend is selected from
  rw [hhanded.follows.selectBackend_eq] at hsome
  obtain ⟨slot, hto⟩ := sentTo_of_selectBackend hhanded.pool?_eq hsome hred.load32_destination
  exact ⟨h, pool, slot, b, hread, hto⟩

/-- Two frames of one flow that were balanced over one pool. -/
lemma SentTo.destination_eq {settings : Settings} {m m' : Memory} {sent sent' : Octets}
    {h h' : Header} {pool : Pool} {slot slot' : ℕ} {b b' : Backend}
    (hto : SentTo settings m sent h pool slot b) (hto' : SentTo settings m' sent' h' pool slot' b')
    (hslots : m'.slots = m.slots) (hmaglev : m'.maglev = m.maglev) (hsource : h'.source = h.source)
    (hport : h'.sourcePort = h.sourcePort) :
    load32 sent' Frame.ipv4DestinationAt = load32 sent Frame.ipv4DestinationAt := by
  have hflow' := hto'.flowSlot
  rw [hsource, hport] at hflow'
  obtain rfl : slot' = slot := hto.flowSlot.unique hflow' hmaglev
  have hb' := hto'.backend
  rw [hslots, hto.backend] at hb'
  rw [hto.destination, hto'.destination, Option.some_inj.1 hb']

/-- **Frames go to a usable backend, and the frames of a flow all to the same.**  A frame that is sent
on is of a balanced class and points at the usable backend in the slot of its flow; and every other
frame of the flow that is sent on in the same pool points there too, whatever else it carries and
whatever the rate records, counters and the clock are by then. -/
theorem sent_to_flow_backend (settings : Settings) (m : Memory) (frame : Octets)
    (hsent : (process settings frame m).verdict = .transmit) :
    let sent := (process settings frame m).frame
    ∃ h pool slot b, Header.read? frame = some h ∧ SentTo settings m sent h pool slot b ∧
      ∀ (m' : Memory) (frame' : Octets) (h' : Header),
        m'.slots = m.slots → m'.maglev = m.maglev →
        (process settings frame' m').verdict = .transmit → Header.read? frame' = some h' →
        (classify h' settings).pool? = some pool →
        h'.source = h.source → h'.sourcePort = h.sourcePort →
        load32 (process settings frame' m').frame Frame.ipv4DestinationAt =
          load32 sent Frame.ipv4DestinationAt := by
  intro sent
  obtain ⟨h, pool, slot, b, hread, hto⟩ := exists_sentTo hsent
  refine ⟨h, pool, slot, b, hread, hto, ?_⟩
  intro m' frame' h' hslots hmaglev hsent' hread' hpool hsource hport
  obtain ⟨h'', pool', slot', b', hread'', hto'⟩ := exists_sentTo hsent'
  obtain rfl : h' = h'' := Option.some_inj.1 (hread'.symm.trans hread'')
  obtain rfl : pool = pool' := Option.some_inj.1 (hpool.symm.trans hto'.balanced)
  exact hto.destination_eq hto' hslots hmaglev hsource hport

/-- An invitation over UDP from port 40000 of `203.0.113.5`. -/
def callDatagram : Octets :=
  [2, 0, 0, 0, 0, 0xbb, 2, 0, 0, 0, 0, 0xaa, 8, 0,
    0x45, 0, 0, 28, 0, 0, 0x40, 0, 64, 17, 0, 0, 203, 0, 113, 5, 198, 51, 100, 1,
    156, 64, 19, 196, 0, 8, 0, 0]

/-- A segment of the same flow over TLS, to another address and with four octets of options. -/
def callSegment : Octets :=
  [2, 0, 0, 0, 0, 0xbb, 2, 0, 0, 0, 0, 0xaa, 8, 0,
    0x46, 0, 0, 44, 0, 0, 0x40, 0, 64, 6, 0, 0, 203, 0, 113, 5, 198, 51, 100, 9, 1, 1, 1, 1,
    156, 64, 19, 197, 0, 0, 0, 1, 0, 0, 0, 0, 0x50, 2, 0x20, 0, 0, 0, 0, 0]

/-- The settings name no selector mode and more slots than a pool has, so the flow belongs to the
slot of its word modulo sixteen. -/
theorem callSegment_follows_callDatagram :
    let settings : Settings := { selector := 7, signalingSlots := 200 }
    let slots : SlotTable := SlotTable.empty.set 4 { address := 0x0a000004, flags := 1 }
    let m : Memory := { slots := ⟨slots, SlotTable.empty⟩ }
    let later : Memory := { m with clock := 9, rates := { records := [(0xcb007105, ⟨3, 2⟩)] } }
    (process settings callDatagram m).verdict = .transmit ∧
      (process settings callSegment later).verdict = .transmit ∧
      load32 (process settings callDatagram m).frame 30 = some 0x0a000004 ∧
      load32 (process settings callSegment later).frame 30 = some 0x0a000004 := by
  intro settings slots m later
  have hsent : (process settings callDatagram m).verdict = .transmit := by decide
  have hlater : (process settings callSegment later).verdict = .transmit := by decide
  have hdestination : load32 (process settings callDatagram m).frame 30 = some 0x0a000004 := by
    decide
  obtain ⟨h, pool, slot, b, hread, hto, hflow⟩ := sent_to_flow_backend settings m callDatagram hsent
  obtain rfl : (⟨0xcb007105, 0xc6336401, .udp, 40000, 5060, 34⟩ : Header) = h :=
    Option.some_inj.1 hread
  obtain rfl : .signaling = pool := Option.some_inj.1 hto.balanced
  have hsame := hflow later callSegment ⟨0xcb007105, 0xc6336409, .tcp, 40000, 5061, 38⟩ rfl rfl
    hlater rfl rfl rfl rfl
  exact ⟨hsent, hlater, hdestination, hsame.trans hdestination⟩

end VoiceSteering
