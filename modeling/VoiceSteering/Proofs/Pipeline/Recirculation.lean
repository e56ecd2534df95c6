/-
# Frames that come back

A frame that was sent on may reach the balancer once more, for instance when the host that it was
sent to hands it back.  It is read as before, but for its destination, which is the address of a
backend now.  Neither its class nor its slot depends on the destination, so the same backend is
selected for it, and its address is replaced by itself.

For a checksum that is adjusted in place this is not always harmless: of the two representatives of
zero the update leaves `0x0000` only.  But an update to an address that is not zero never leaves
`0xffff`.  The one `0xffff` that a redirection stores is that of a UDP checksum which came out as
zero, and it comes out as zero again.  A frame is `Settled` when its checksums are kept in this sense.
A redirection settles a frame, and a settled frame changes no more behind its link-layer addresses,
however often it comes back.
-/
import Mathlib.Logic.Relation
import VoiceSteering.Proofs.Pipeline.Affinity
import VoiceSteering.Proofs.Pipeline.ChecksumValidity

namespace VoiceSteering

open VoiceSteering.Frame

/-! ### Replacing an address by itself -/

/-- An adjusted transport checksum does not change when the new address is replaced by itself. -/
lemma adjustTransportChecksum_adjustTransportChecksum (transport : Frame.Transport)
    (checksum : UInt16) (old : Vector UInt8 4) {new : Vector UInt8 4} (hnew : 0 < halfSum new) :
    adjustTransportChecksum transport (adjustTransportChecksum transport checksum old new) new new =
      adjustTransportChecksum transport checksum old new := by
  by_cases habsent : transport = .udp ∧ checksum = 0
  · have hzero : adjustTransportChecksum transport checksum old new = 0 := if_pos habsent
    rw [hzero]
    exact if_pos ⟨habsent.1, rfl⟩
  · rw [adjustTransportChecksum_of_present habsent]
    split
    · next hzero =>
      -- `0xffff` was written for zero: the update makes it zero again
      have hback : Frame.adjustChecksum 0xffff new new = 0 := by
        rw [Frame.adjustChecksum_self _ hnew, if_pos rfl]
      have hpresent : ¬(transport = .udp ∧ (0xffff : UInt16) = 0) := fun h => absurd h.2 (by decide)
      rw [adjustTransportChecksum_of_present hpresent, if_pos ⟨hzero.1, hback⟩]
    · next hpresent =>
      rw [adjustTransportChecksum_of_present hpresent,
        Frame.adjustChecksum_adjustChecksum _ _ hnew, if_neg hpresent]

/-! ### Reading a frame that was redirected -/

section Redirected

variable {mode : ChecksumMode} {h : Header} {b : Backend} {frame sent : Octets}

namespace Redirected

/-- Up to the transport checksum only the IPv4 checksum and the destination are new. -/
lemma getElem?_eq_of_lt (hred : Redirected mode h b frame sent) {i : ℕ} (hlink : 12 ≤ i)
    (hbefore : i < h.transportOffset + 6) (hheader : i < 24 ∨ 26 ≤ i)
    (haddress : i < 30 ∨ 34 ≤ i) : sent[i]? = frame[i]? := by
  refine hred.getElem?_eq hlink hheader haddress fun offset hat => ?_
  have hbounds := Header.checksumAt?_bounds hat
  omega

lemma exists_ipv4_load (hred : Redirected mode h b frame sent) (hbound : 34 ≤ h.transportOffset)
    {ip : Vector UInt8 20} (hip : frame.load ipv4At 20 = some ip) :
    ∃ ip', sent.load ipv4At 20 = some ip' ∧
      (∀ i < 16, i < 10 ∨ 12 ≤ i → ipv4Octet ip' i = ipv4Octet ip i) ∧
      word32 (ipv4Octet ip' 16) (ipv4Octet ip' 17) (ipv4Octet ip' 18) (ipv4Octet ip' 19) =
        b.address := by
  have hlength := Octets.le_length_of_load hip
  rw [← hred.length_eq] at hlength
  obtain ⟨ip', hip'⟩ := Octets.exists_load hlength
  refine ⟨ip', hip', fun i hi hchecksum => ?_, ?_⟩
  · have hbefore := getElem?_of_ipv4_load hip (i := i) (by omega)
    have hafter := getElem?_of_ipv4_load hip' (i := i) (by omega)
    simp only [ipv4At] at hbefore hafter
    rw [hred.getElem?_eq_of_lt (by omega) (by omega) (by omega) (by omega), hbefore] at hafter
    exact (Option.some_inj.1 hafter).symm
  · have hoctet : ∀ i (hi : i < 4), ipv4Octet ip' (16 + i) = (octets32 b.address)[i] := by
      intro i hi
      have hstored := Octets.getElem?_of_load hred.address hi
      have hread := getElem?_of_ipv4_load hip' (i := 16 + i) (by omega)
      simp only [ipv4At, ← Nat.add_assoc, Nat.reduceAdd] at hread
      exact Option.some_inj.1 (hread.symm.trans hstored)
    have hword := word32Of_octets32 b.address
    rwa [word32Of, ← hoctet 0, ← hoctet 1, ← hoctet 2, ← hoctet 3] at hword

lemma ports?_eq_some (hred : Redirected mode h b frame sent) (hbound : 34 ≤ h.transportOffset)
    {fragment : UInt16} {ports : UInt16 × UInt16}
    (hports : h.transport.ports? fragment frame h.transportOffset = some ports) :
    h.transport.ports? fragment sent h.transportOffset = some ports := by
  rw [Transport.ports?_eq_ite] at hports ⊢
  split_ifs at hports ⊢
  · exact hports
  · obtain ⟨⟨whole, hwhole⟩, v, hv, hhalves⟩ := ports?_eq_some_iff.1 hports
    have hlength := Octets.le_length_of_load hwhole
    rw [← hred.length_eq] at hlength
    refine ports?_eq_some_iff.2 ⟨Octets.exists_load hlength, v, ?_, hhalves⟩
    refine (Octets.load_congr hred.length_eq fun i hi hlt => ?_).trans hv
    exact hred.getElem?_eq_of_lt (by omega) (by omega) (by omega) (by omega)

/-- A redirected frame is read as before, but for its destination. -/
lemma read?_eq (hred : Redirected mode h b frame sent) (hread : Header.read? frame = some h) :
    Header.read? sent = some { h with destination := b.address } := by
  obtain ⟨hbound, -⟩ := Header.transportOffset_bounds hread
  obtain ⟨ip, hlink, hip, hversion, hwords, htransport, hoffset, hsource, -, hports⟩ :=
    Header.read?_eq_some_iff.1 hread
  obtain ⟨ip', hip', hsame, hdestination⟩ := hred.exists_ipv4_load hbound hip
  have hlink' : load16 sent linkTypeAt = load16 frame linkTypeAt := by
    refine load16_congr hred.length_eq fun i hi hlt => ?_
    simp only [linkTypeAt] at hi hlt
    exact hred.getElem?_eq_of_lt (by omega) (by omega) (by omega) (by omega)
  refine Header.read?_eq_some_iff.2 ⟨ip', hlink'.trans hlink, hip', ?_⟩
  simp only [hsame, Nat.reduceLT, Nat.reduceLeDiff, true_or, or_true, hdestination]
  exact ⟨hversion, hwords, htransport, hoffset, hsource, trivial, hred.ports?_eq_some hbound hports⟩

end Redirected

/-! ### Settled frames -/

/-- A frame that points at a backend already: it carries the backend's address, and replacing that
address by itself keeps its checksums. -/
structure Settled (mode : ChecksumMode) (h : Header) (b : Backend) (frame : Octets) : Prop where
  read : Header.read? frame = some h
  destination : h.destination = b.address
  address : frame.load 30 4 = some (octets32 b.address)
  offload : mode = .offload → frame.load 24 2 = some #v[0, 0]
  header : mode = .incremental → ∃ checksum, load16 frame 24 = some checksum ∧
    adjustChecksum checksum (octets32 b.address) (octets32 b.address) = checksum
  transport : mode = .incremental → ∀ offset, h.checksumAt? = some offset →
    ∃ checksum, load16 frame offset = some checksum ∧
      adjustTransportChecksum h.transport checksum (octets32 b.address) (octets32 b.address) =
        checksum

/-- A redirection settles a frame. -/
lemma Redirected.settled (hred : Redirected mode h b frame sent)
    (hread : Header.read? frame = some h) (hb : b.address ≠ 0)
    (hadj : mode = .incremental → Adjusted h b frame sent) :
    Settled mode { h with destination := b.address } b sent := by
  have hnew := halfSum_octets32_pos hb
  refine ⟨hred.read?_eq hread, rfl, hred.address, hred.offload, fun hmode => ?_,
    fun hmode offset hat => ?_⟩
  · obtain ⟨checksum, old, -, -, hafter⟩ := (hadj hmode).header
    exact ⟨_, hafter, adjustChecksum_adjustChecksum checksum old hnew⟩
  · obtain ⟨checksum, old, -, -, hafter⟩ := (hadj hmode).transport offset hat
    exact ⟨_, hafter,
      adjustTransportChecksum_adjustTransportChecksum h.transport checksum old hnew⟩

namespace Settled

/-- The IPv4 checksum of a settled frame is stored again. -/
lemma exists_load_header (hsettled : Settled mode h b frame) (hred : Redirected mode h b frame sent)
    (hadj : mode = .incremental → Adjusted h b frame sent) :
    ∃ v, frame.load 24 2 = some v ∧ sent.load 24 2 = some v := by
  cases mode with
  | offload => exact ⟨_, hsettled.offload rfl, hred.offload rfl⟩
  | incremental =>
    obtain ⟨checksum, hchecksum, hkept⟩ := hsettled.header rfl
    obtain ⟨checksum', old, hbefore, hold, hafter⟩ := (hadj rfl).header
    obtain rfl : checksum = checksum' := Option.some_inj.1 (hchecksum.symm.trans hbefore)
    obtain rfl : octets32 b.address = old := Option.some_inj.1 (hsettled.address.symm.trans hold)
    rw [hkept] at hafter
    exact ⟨_, load_of_load16 hchecksum, load_of_load16 hafter⟩

/-- The transport checksum of a settled frame is stored again, or left out again. -/
lemma exists_load_transport (hsettled : Settled mode h b frame) (hmode : mode = .incremental)
    (hadj : Adjusted h b frame sent) {offset : ℕ} (hat : h.checksumAt? = some offset) :
    ∃ v, frame.load offset 2 = some v ∧ sent.load offset 2 = some v := by
  obtain ⟨checksum, hchecksum, hkept⟩ := hsettled.transport hmode offset hat
  obtain ⟨checksum', old, hbefore, hold, hafter⟩ := hadj.transport offset hat
  obtain rfl : checksum = checksum' := Option.some_inj.1 (hchecksum.symm.trans hbefore)
  obtain rfl : octets32 b.address = old := Option.some_inj.1 (hsettled.address.symm.trans hold)
  rw [hkept] at hafter
  exact ⟨_, load_of_load16 hchecksum, load_of_load16 hafter⟩

/-- A redirection of a settled frame changes nothing behind the link-layer addresses. -/
lemma getElem?_eq (hsettled : Settled mode h b frame) (hred : Redirected mode h b frame sent)
    (hadj : mode = .incremental → Adjusted h b frame sent) {i : ℕ} (hi : 12 ≤ i) :
    sent[i]? = frame[i]? := by
  by_cases htouched : Touched mode h i
  · rcases htouched with hlink | ⟨hle, hlt⟩ | ⟨hle, hlt⟩ | ⟨hmode, offset, hat, hle, hlt⟩
    · omega
    · obtain ⟨v, hbefore, hafter⟩ := hsettled.exists_load_header hred hadj
      exact Octets.getElem?_eq_of_load_eq hbefore hafter hle hlt
    · exact Octets.getElem?_eq_of_load_eq hsettled.address hred.address hle hlt
    · obtain ⟨v, hbefore, hafter⟩ := hsettled.exists_load_transport hmode (hadj hmode) hat
      exact Octets.getElem?_eq_of_load_eq hbefore hafter hle hlt
  · exact hred.elsewhere i htouched

end Settled

end Redirected

/-! ### One more pass -/

section Return

variable {settings : Settings} {m m' : Memory} {frame sent : Octets} {h : Header} {pool : Pool}
  {b : Backend}

/-- A frame for which a backend can be selected is sent on, unless the rate limit denies it. -/
lemma verdict_of_selectBackend (hread : Header.read? frame = some h)
    (hpool : (classify h settings).pool? = some pool)
    (hsome : selectBackend settings pool h m = some b)
    (hkept : (process settings frame m).verdict ≠ .drop) :
    (process settings frame m).verdict = .transmit := by
  have hending := process_ending settings frame m
  generalize process settings frame m = outcome at hkept hending
  cases hending with
  | unread hread' => exact absurd (hread.symm.trans hread') (by simp)
  | @unbalanced h' hread' hclass =>
    obtain rfl : h = h' := Option.some_inj.1 (hread.symm.trans hread')
    exact absurd (hpool.symm.trans hclass) (by simp)
  | denied => exact absurd rfl hkept
  | @noBackend h' pool' s hread' hhanded hnone =>
    obtain rfl : h = h' := Option.some_inj.1 (hread.symm.trans hread')
    obtain rfl : pool = pool' := Option.some_inj.1 (hpool.symm.trans hhanded.pool?_eq)
    rw [hhanded.follows.selectBackend_eq, hsome] at hnone
    exact absurd hnone (by simp)
  | redirected => rfl
  | @abandoned h' pool' s b' left hread' hhanded hsome' hleft =>
    obtain ⟨sent, hsent, -⟩ := redirect_octets hread' settings.checksumMode b'
    exact absurd (hsent.symm.trans hleft) (by simp)

/-- A frame that is sent on is settled, and its backend is selected for it again: neither the class
nor the slot depends on the destination. -/
lemma exists_settled (hsent : (process settings frame m).verdict = .transmit) :
    ∃ h pool slot b, Header.read? frame = some h ∧
      SentTo settings m (process settings frame m).frame h pool slot b ∧
      Settled settings.checksumMode { h with destination := b.address } b
        (process settings frame m).frame ∧
      (classify { h with destination := b.address } settings).pool? = some pool ∧
      ∀ m' : Memory, m'.slots = m.slots → m'.maglev = m.maglev →
        selectBackend settings pool { h with destination := b.address } m' = some b := by
  obtain ⟨h, pool, s, b, hread, hhanded, hsome, hred, hadj⟩ := exists_redirected hsent
  have hsettled := hred.settled hread (address_ne_zero_of_selectBackend hsome) hadj
  rw [hhanded.follows.selectBackend_eq] at hsome
  obtain ⟨slot, hto⟩ := sentTo_of_selectBackend hhanded.pool?_eq hsome hred.load32_destination
  refine ⟨h, pool, slot, b, hread, hto, hsettled, hto.balanced, fun m' hslots hmaglev => ?_⟩
  exact (Memory.selectBackend_congr hslots hmaglev settings pool h).trans hsome

namespace Settled

lemma load32_destination (hsettled : Settled settings.checksumMode h b frame) :
    load32 frame ipv4DestinationAt = some b.address :=
  Option.map_eq_some_iff.2 ⟨_, hsettled.address, word32Of_octets32 b.address⟩

/-- A settled frame that is sent on to its backend stays settled, and changes nothing behind its
link-layer addresses. -/
lemma resent (hsettled : Settled settings.checksumMode h b frame)
    (hpool : (classify h settings).pool? = some pool)
    (hsome : selectBackend settings pool h m = some b)
    (hsent : (process settings frame m).verdict = .transmit) :
    Settled settings.checksumMode h b (process settings frame m).frame ∧
      (process settings frame m).frame.drop 12 = frame.drop 12 := by
  obtain ⟨h', pool', s, b', hread, hhanded, hsome', hred, hadj⟩ := exists_redirected hsent
  obtain rfl : h = h' := Option.some_inj.1 (hsettled.read.symm.trans hread)
  obtain rfl : pool = pool' := Option.some_inj.1 (hpool.symm.trans hhanded.pool?_eq)
  rw [hhanded.follows.selectBackend_eq] at hsome'
  obtain rfl : b = b' := Option.some_inj.1 (hsome.symm.trans hsome')
  constructor
  · have hagain := hred.settled hread (address_ne_zero_of_selectBackend hsome) hadj
    rwa [← hsettled.destination] at hagain
  · ext1 i
    rw [List.getElem?_drop, List.getElem?_drop]
    exact hsettled.getElem?_eq hred hadj (Nat.le_add_right 12 i)

end Settled

/-- **A frame that comes back is sent to the same backend and changes no more.**  When the frame that
was sent on runs through the pipeline again, with the same settings, slots and look-up tables but
with any rate records, counters and clock, and the rate limit does not deny it, then it is sent on to
the backend in the same slot, and no octet behind the link-layer addresses is another one. -/
theorem returned_frame_unchanged (settings : Settings) (m m' : Memory) (frame : Octets)
    (hsent : (process settings frame m).verdict = .transmit) (hslots : m'.slots = m.slots)
    (hmaglev : m'.maglev = m.maglev)
    (hkept : (process settings (process settings frame m).frame m').verdict ≠ .drop) :
    let sent := (process settings frame m).frame
    let again := process settings sent m'
    again.verdict = .transmit ∧ again.frame.drop 12 = sent.drop 12 ∧
      ∃ h pool slot b, Header.read? frame = some h ∧ SentTo settings m sent h pool slot b ∧
        Header.read? sent = some { h with destination := b.address } ∧
        SentTo settings m' again.frame { h with destination := b.address } pool slot b := by
  intro sent again
  obtain ⟨h, pool, slot, b, hread, hto, hsettled, hpool, hselects⟩ := exists_settled hsent
  have hsome := hselects m' hslots hmaglev
  have hagain : again.verdict = .transmit :=
    verdict_of_selectBackend hsettled.read hpool hsome hkept
  obtain ⟨hsettled', hdrop⟩ := hsettled.resent hpool hsome hagain
  refine ⟨hagain, hdrop, h, pool, slot, b, hread, hto, hsettled.read, hpool, ?_, ?_, hto.active,
    hto.address_ne_zero, hsettled'.load32_destination⟩
  · exact ⟨hto.flowSlot.modulo, by rw [hmaglev]; exact hto.flowSlot.maglev⟩
  · rw [hslots]
    exact hto.backend

/-- A request with options comes back after the clock has moved on.  Its adjusted UDP checksum came
out as zero and is written as `0xffff` both times; only the link-layer addresses change again. -/
theorem optionedRequest_returned :
    let settings : Settings := { signalingSlots := 1, checksum := 1 }
    let b : Backend := { address := 0x0a000005, mac := ⟨#v[2, 0, 0, 0, 0, 5]⟩, flags := 3 }
    let m : Memory := { slots := ⟨SlotTable.empty.setIfInBounds 0 b, SlotTable.empty⟩ }
    let later : Memory := { m with clock := 7, rates := { records := [(0xcb007105, ⟨1, 0⟩)] } }
    let sent := (process settings optionedRequest m).frame
    let again := process settings sent later
    (process settings optionedRequest m).verdict = .transmit ∧ load16 sent 44 = some 0xffff ∧
      again.verdict = .transmit ∧ again.frame.drop 12 = sent.drop 12 ∧ again.frame ≠ sent ∧
      load32 again.frame ipv4DestinationAt = some b.address := by
  intro settings b m later sent again
  have hsent : (process settings optionedRequest m).verdict = .transmit := by decide
  have hkept : (process settings (process settings optionedRequest m).frame later).verdict ≠
      .drop := by decide
  obtain ⟨hagain, hdrop, -⟩ :=
    returned_frame_unchanged settings m later optionedRequest hsent rfl rfl hkept
  exact ⟨hsent, by decide, hagain, hdrop, by decide, by decide⟩

/-! ### Any number of passes -/

/-- A balancer with the slots and look-up tables of `m` sends a frame on as another one. -/
def SendsOn (settings : Settings) (m : Memory) (frame sent : Octets) : Prop :=
  ∃ m' : Memory, m'.slots = m.slots ∧ m'.maglev = m.maglev ∧
    (process settings frame m').verdict = .transmit ∧ (process settings frame m').frame = sent

/-- The induction is on the passes, each of which keeps the frame settled. -/
lemma Settled.circulated {last : Octets} (hsettled : Settled settings.checksumMode h b sent)
    (hpool : (classify h settings).pool? = some pool)
    (hselects : ∀ m' : Memory, m'.slots = m.slots → m'.maglev = m.maglev →
      selectBackend settings pool h m' = some b)
    (hpasses : Relation.ReflTransGen (SendsOn settings m) sent last) :
    Settled settings.checksumMode h b last ∧ last.drop 12 = sent.drop 12 := by
  induction hpasses with
  | refl => exact ⟨hsettled, rfl⟩
  | tail _ hstep ih =>
    obtain ⟨hsettled', hdrop⟩ := ih
    obtain ⟨m', hslots, hmaglev, hsent, rfl⟩ := hstep
    obtain ⟨hsettled'', hdrop'⟩ := hsettled'.resent hpool (hselects m' hslots hmaglev) hsent
    exact ⟨hsettled'', hdrop'.trans hdrop⟩

/-- **A frame may circulate for any number of passes.**  After each of them it carries the same octets
behind the link-layer addresses as after the first one, and it is never handed to the network
stack. -/
theorem circulating_frame_unchanged {last : Octets} (hsent : SendsOn settings m frame sent)
    (hpasses : Relation.ReflTransGen (SendsOn settings m) sent last) :
    last.drop 12 = sent.drop 12 ∧
      ∀ m' : Memory, m'.slots = m.slots → m'.maglev = m.maglev →
        (process settings last m').verdict ≠ .pass := by
  obtain ⟨first, hfirstSlots, hfirstMaglev, hfirst, rfl⟩ := hsent
  obtain ⟨h, pool, slot, b, -, -, hsettled, hpool, hselects⟩ := exists_settled hfirst
  rw [hfirstSlots, hfirstMaglev] at hselects
  obtain ⟨hsettled', hdrop⟩ := hsettled.circulated hpool hselects hpasses
  refine ⟨hdrop, fun m' hslots hmaglev hpass => ?_⟩
  have hagain : (process settings last m').verdict = .transmit :=
    verdict_of_selectBackend hsettled'.read hpool (hselects m' hslots hmaglev)
      (by rw [hpass]; decide)
  exact absurd (hpass.symm.trans hagain) (by decide)

end Return

end VoiceSteering
