/-
# Checksums stay right when a frame is sent on

In incremental mode the IPv4 checksum and the transport checksum are adjusted without a look at the
text they cover.  Here they are compared with that text: the words of the IPv4 header, options
included, and the words of the pseudo-header and of a segment that may end anywhere behind the
transport header.  A checksum was right before exactly when it is right afterwards, and a right one
is what a computation over the whole new text gives.

A UDP checksum of zero means that there is none.  It stays zero, and no other checksum becomes zero.
-/
import VoiceSteering.Proofs.Frame.CarrySum
import VoiceSteering.Proofs.Pipeline.Redirection

namespace VoiceSteering

open VoiceSteering.Frame
open VoiceSteering.Frame.Octets (slice)

/-! ### Covered texts -/

/-- The IPv4 header with its options; its first octet says how long it is. -/
def ipv4Text (frame : Octets) : Octets :=
  slice frame 14 (14 + 4 * ((frame[14]?.getD 0).toNat % 16))

/-- The IPv4 header sums up to `0xffff`. -/
def HeaderValid (frame : Octets) : Prop := carryFold (wordSum (ipv4Text frame)) = 65535

/-- The IPv4 checksum computed over the whole header, its own field counting as zero. -/
def headerChecksum (frame : Octets) : UInt16 :=
  checksumOf (wordSum (ipv4Text (frame.overwrite 24 (octets16 0))))

/-- The sum of the pseudo-header (both addresses, the protocol and a length) and of the segment
between two offsets. -/
def transportSum (start stop length : ℕ) (frame : Octets) : ℕ :=
  wordSum (slice frame 26 34) + (frame[23]?.getD 0).toNat + length +
    wordSum (slice frame start stop)

/-- Pseudo-header and segment sum up to `0xffff`. -/
def TransportValid (start stop length : ℕ) (frame : Octets) : Prop :=
  carryFold (transportSum start stop length frame) = 65535

/-- The transport checksum computed over pseudo-header and segment, its own field counting as zero.
For UDP a result of zero is written as `0xffff`. -/
def transportChecksum (transport : Transport) (offset start stop length : ℕ) (frame : Octets) :
    UInt16 :=
  let checksum := checksumOf (transportSum start stop length (frame.overwrite offset (octets16 0)))
  if transport = .udp ∧ checksum = 0 then 0xffff else checksum

/-! ### The summands of a covered text -/

variable {frame : Octets} {h : Header}

/-- What the IPv4 header adds up to besides its checksum and the destination address. -/
def headerRest (frame : Octets) (stop : ℕ) : ℕ :=
  wordSum (slice frame 14 24) + wordSum (slice frame 26 30) + wordSum (slice frame 34 stop)

lemma wordSum_header {stop : ℕ} {checksum : UInt16} {destination : Vector UInt8 4}
    (hchecksum : load16 frame 24 = some checksum)
    (hdestination : frame.load 30 4 = some destination) (hstop : 34 ≤ stop) :
    wordSum (slice frame 14 stop) =
      headerRest frame stop + checksum.toNat + halfSum destination := by
  obtain ⟨v, hv, rfl⟩ := load16_eq_some_iff.1 hchecksum
  have hlength := Octets.le_length_of_load hdestination
  rw [wordSum_slice_word hv (by omega) (by omega) (by omega),
    wordSum_slice_add 26 30 stop (by omega) (by omega) (by omega) (by omega),
    wordSum_slice_add 30 34 stop (by omega) (by omega) (by omega) (by omega),
    Octets.slice_eq_of_load hdestination, wordSum_toList_four, headerRest]
  omega

lemma headerRest_congr {other : Octets} {stop : ℕ}
    (hother : ∀ i, 14 ≤ i → i < stop → (i < 24 ∨ 26 ≤ i) → (i < 30 ∨ 34 ≤ i) →
      other[i]? = frame[i]?) (hstop : 34 ≤ stop) :
    headerRest other stop = headerRest frame stop := by
  have hfirst : slice other 14 24 = slice frame 14 24 :=
    Octets.slice_congr fun i _ _ => hother i (by omega) (by omega) (by omega) (by omega)
  have hsource : slice other 26 30 = slice frame 26 30 :=
    Octets.slice_congr fun i _ _ => hother i (by omega) (by omega) (by omega) (by omega)
  have hoptions : slice other 34 stop = slice frame 34 stop :=
    Octets.slice_congr fun i _ _ => hother i (by omega) (by omega) (by omega) (by omega)
  rw [headerRest, headerRest, hfirst, hsource, hoptions]

/-- What pseudo-header and segment add up to besides the transport checksum and the destination
address. -/
def transportRest (offset start stop length : ℕ) (frame : Octets) : ℕ :=
  wordSum (slice frame 26 30) + (frame[23]?.getD 0).toNat + length +
    wordSum (slice frame start offset) + wordSum (slice frame (offset + 2) stop)

lemma transportSum_eq {offset start : ℕ} (stop length : ℕ) {checksum : UInt16}
    {destination : Vector UInt8 4} (hchecksum : load16 frame offset = some checksum)
    (hdestination : frame.load 30 4 = some destination) (h₁ : start ≤ offset)
    (h₂ : offset + 2 ≤ stop) (heven : (offset - start) % 2 = 0) :
    transportSum start stop length frame =
      transportRest offset start stop length frame + checksum.toNat + halfSum destination := by
  obtain ⟨v, hv, rfl⟩ := load16_eq_some_iff.1 hchecksum
  have hlength := Octets.le_length_of_load hdestination
  rw [transportSum, wordSum_slice_word hv h₁ h₂ heven,
    wordSum_slice_add 26 30 34 (by omega) (by omega) (by omega) (by omega),
    Octets.slice_eq_of_load hdestination, wordSum_toList_four, transportRest]
  omega

lemma transportRest_congr {other : Octets} {offset start : ℕ} (stop length : ℕ)
    (hother : ∀ i, 23 ≤ i → (i < 24 ∨ 26 ≤ i) → (i < 30 ∨ 34 ≤ i) →
      (i < offset ∨ offset + 2 ≤ i) → other[i]? = frame[i]?)
    (hstart : 34 ≤ start) (hoffset : start ≤ offset) :
    transportRest offset start stop length other =
      transportRest offset start stop length frame := by
  have hsource : slice other 26 30 = slice frame 26 30 :=
    Octets.slice_congr fun i _ _ => hother i (by omega) (by omega) (by omega) (by omega)
  have hbefore : slice other start offset = slice frame start offset :=
    Octets.slice_congr fun i _ _ => hother i (by omega) (by omega) (by omega) (by omega)
  have hbehind : slice other (offset + 2) stop = slice frame (offset + 2) stop :=
    Octets.slice_congr fun i _ _ => hother i (by omega) (by omega) (by omega) (by omega)
  rw [transportRest, transportRest, hsource, hbefore, hbehind,
    hother 23 (by omega) (by omega) (by omega) (by omega)]

/-! ### With a checksum that counts as zero -/

/-- With its checksum counting as zero, the IPv4 header adds up to the rest and the address. -/
lemma wordSum_header_zeroed {stop : ℕ} {destination : Vector UInt8 4}
    (hdestination : frame.load 30 4 = some destination) (hstop : 34 ≤ stop) :
    wordSum (slice (frame.overwrite 24 (octets16 0)) 14 stop) =
      headerRest frame stop + halfSum destination := by
  have hlength := Octets.le_length_of_load hdestination
  have hzero : load16 (frame.overwrite 24 (octets16 0)) 24 = some 0 :=
    load16_of_load (Octets.load_overwrite_self _ (by omega))
  have hdestination' : (frame.overwrite 24 (octets16 0)).load 30 4 = some destination := by
    rw [Octets.load_overwrite_of_disjoint _ (by omega), hdestination]
  rw [wordSum_header hzero hdestination' hstop,
    headerRest_congr (fun i _ _ hi _ => Octets.getElem?_overwrite_of_notMem hi) hstop]
  rfl

/-- With the transport checksum counting as zero, pseudo-header and segment add up to the rest and
the address. -/
lemma transportSum_zeroed {offset start stop : ℕ} (length : ℕ) {destination : Vector UInt8 4}
    (hdestination : frame.load 30 4 = some destination) (hlength : offset + 2 ≤ frame.length)
    (hstart : 34 ≤ start) (h₁ : start ≤ offset) (h₂ : offset + 2 ≤ stop)
    (heven : (offset - start) % 2 = 0) :
    transportSum start stop length (frame.overwrite offset (octets16 0)) =
      transportRest offset start stop length frame + halfSum destination := by
  have hzero : load16 (frame.overwrite offset (octets16 0)) offset = some 0 :=
    load16_of_load (Octets.load_overwrite_self _ hlength)
  have hdestination' : (frame.overwrite offset (octets16 0)).load 30 4 = some destination := by
    rw [Octets.load_overwrite_of_disjoint _ (by omega), hdestination]
  rw [transportSum_eq stop length hzero hdestination' h₁ h₂ heven,
    transportRest_congr stop length (fun i _ _ _ hi => Octets.getElem?_overwrite_of_notMem hi)
      hstart h₁]
  rfl

/-! ### The header that was read -/

/-- The transport header starts right behind the IPv4 header. -/
lemma ipv4Text_eq (hread : Header.read? frame = some h) {other : Octets}
    (hfirst : other[14]? = frame[14]?) : ipv4Text other = slice other 14 h.transportOffset := by
  obtain ⟨ip, -, hip, -, -, -, hoffset, -⟩ := Header.read?_eq_some_iff.1 hread
  have hip₀ : frame[14]? = some (ipv4Octet ip 0) :=
    getElem?_of_ipv4_load hip (i := 0) (by omega)
  rw [ipv4Text, hfirst, hip₀, hoffset]
  rfl

lemma headerRest_pos (hread : Header.read? frame = some h) (stop : ℕ) :
    0 < headerRest frame stop := by
  obtain ⟨ip, -, hip, hversion, -⟩ := Header.read?_eq_some_iff.1 hread
  have hfirst : frame[14]? = some (ipv4Octet ip 0) :=
    getElem?_of_ipv4_load hip (i := 0) (by omega)
  have hpos : 0 < wordSum (slice frame 14 24) :=
    wordSum_pos (by rw [Octets.getElem?_slice, if_pos (by omega), hfirst]) (by omega)
  simp only [headerRest]
  omega

lemma transportRest_pos (hread : Header.read? frame = some h) {offset : ℕ}
    (hat : h.checksumAt? = some offset) (start stop length : ℕ) :
    0 < transportRest offset start stop length frame := by
  obtain ⟨ip, -, hip, -, -, htransport, -⟩ := Header.read?_eq_some_iff.1 hread
  have hprotocol : frame[23]? = some (ipv4Octet ip 9) :=
    getElem?_of_ipv4_load hip (i := 9) (by omega)
  have hpos : 0 < (ipv4Octet ip 9).toNat := by
    rcases Nat.eq_zero_or_pos (ipv4Octet ip 9).toNat with hzero | hpos
    · have hnone : ipv4Octet ip 9 = 0 := UInt8.toNat_inj.1 hzero
      have hother : h.transport = .other 0 := by
        rw [htransport, hnone]
        rfl
      rw [Header.checksumAt?, hother] at hat
      exact absurd hat (by simp)
    · exact hpos
  simp only [transportRest, hprotocol, Option.getD_some]
  omega

/-! ### Before and after -/

/-- The backend that is selected has an address. -/
lemma address_ne_zero_of_selectBackend {σ : Type} [Datapath σ] {settings : Settings} {pool : Pool}
    {state : σ} {b : Backend} (hselect : selectBackend settings pool h state = some b) :
    b.address ≠ 0 := by
  have husable := (Option.filter_eq_some_iff.1 hselect).2
  simp only [Backend.isUsable, Bool.and_eq_true, bne_iff_ne] at husable
  exact husable.2

lemma halfSum_octets32_pos {a : Address} (ha : a ≠ 0) : 0 < halfSum (octets32 a) := by
  have hpos : a.toNat ≠ 0 := fun hzero => ha (UInt32.toNat_inj.1 hzero)
  rw [halfSum_octets32]
  omega

section Redirected

variable {sent : Octets} {b : Backend}

/-- The IPv4 checksum of a redirected frame. -/
lemma Redirected.header_valid (hread : Header.read? frame = some h) (hb : b.address ≠ 0)
    (hred : Redirected .incremental h b frame sent) (hadj : Adjusted h b frame sent) :
    (HeaderValid sent ↔ HeaderValid frame) ∧
      (HeaderValid frame → load16 sent 24 = some (headerChecksum sent)) := by
  obtain ⟨checksum, old, hchecksum, hold, hsent⟩ := hadj.header
  have hoffset := Header.transportOffset_bounds hread
  have hpos := headerRest_pos hread h.transportOffset
  obtain ⟨hlt, hmod⟩ := adjustChecksum_spec checksum old (halfSum_octets32_pos hb)
  -- the transport checksum lies behind the IPv4 header
  have hsame : ∀ i, 14 ≤ i → i < h.transportOffset → (i < 24 ∨ 26 ≤ i) → (i < 30 ∨ 34 ≤ i) →
      sent[i]? = frame[i]? := by
    intro i h₁ h₂ h₃ h₄
    refine hred.getElem?_eq (by omega) h₃ h₄ fun offset hat => ?_
    have := Header.checksumAt?_bounds hat
    omega
  have hrest : headerRest sent h.transportOffset = headerRest frame h.transportOffset :=
    headerRest_congr hsame hoffset.1
  have hbefore : wordSum (ipv4Text frame) =
      headerRest frame h.transportOffset + checksum.toNat + halfSum old := by
    rw [ipv4Text_eq hread rfl, wordSum_header hchecksum hold hoffset.1]
  have hafter : wordSum (ipv4Text sent) = headerRest frame h.transportOffset +
      (adjustChecksum checksum old (octets32 b.address)).toNat + halfSum (octets32 b.address) := by
    rw [ipv4Text_eq hread (hsame 14 (by omega) (by omega) (by omega) (by omega)),
      wordSum_header hsent hred.address hoffset.1, hrest]
  have hiff : HeaderValid sent ↔ HeaderValid frame := by
    rw [HeaderValid, HeaderValid, hbefore, hafter]
    exact carryFold_eq_max_iff_of_adjusted hpos hmod
  refine ⟨hiff, fun hvalid => ?_⟩
  have hvalid' : HeaderValid sent := hiff.2 hvalid
  rw [HeaderValid, hafter] at hvalid'
  have hfirst : (sent.overwrite 24 (octets16 0))[14]? = frame[14]? := by
    rw [Octets.getElem?_overwrite_of_notMem (by omega)]
    exact hsame 14 (by omega) (by omega) (by omega) (by omega)
  have hzeroed : wordSum (ipv4Text (sent.overwrite 24 (octets16 0))) =
      headerRest frame h.transportOffset + halfSum (octets32 b.address) := by
    rw [ipv4Text_eq hread hfirst, wordSum_header_zeroed hred.address hoffset.1, hrest]
  rw [hsent, headerChecksum, hzeroed, eq_checksumOf_of_valid hpos hlt hvalid']

/-- The update of a transport checksum that is there, modulo `0xffff`. -/
lemma adjustTransportChecksum_mod {transport : Transport} {checksum : UInt16}
    (hpresent : ¬(transport = .udp ∧ checksum = 0)) (old : Vector UInt8 4)
    {new : Vector UInt8 4} (hnew : 0 < halfSum new) :
    ((adjustTransportChecksum transport checksum old new).toNat + halfSum new) % 65535 =
      (checksum.toNat + halfSum old) % 65535 := by
  obtain ⟨-, hmod⟩ := adjustChecksum_spec checksum old hnew
  rw [adjustTransportChecksum_of_present hpresent, ← hmod]
  split
  · next hzero =>
    -- `0xffff` and `0x0000` leave the same remainder
    have hmax : (0xffff : UInt16).toNat = 65535 := rfl
    have hmin : (0 : UInt16).toNat = 0 := rfl
    rw [hzero.2, hmax, hmin]
    omega
  · rfl

/-- The transport checksum of a redirected frame, when there is one. -/
lemma Redirected.transport_valid (hread : Header.read? frame = some h) (hb : b.address ≠ 0)
    (hred : Redirected .incremental h b frame sent) (hadj : Adjusted h b frame sent) {offset : ℕ}
    (hat : h.checksumAt? = some offset)
    (hpresent : ¬(h.transport = .udp ∧ load16 frame offset = some 0)) {stop : ℕ}
    (hstop : offset + 2 ≤ stop) (length : ℕ) :
    (TransportValid h.transportOffset stop length sent ↔
        TransportValid h.transportOffset stop length frame) ∧
      (TransportValid h.transportOffset stop length frame → load16 sent offset =
        some (transportChecksum h.transport offset h.transportOffset stop length sent)) := by
  obtain ⟨checksum, old, hchecksum, hold, hsent⟩ := hadj.transport offset hat
  obtain ⟨hstart, -⟩ := Header.transportOffset_bounds hread
  obtain ⟨hoffset, -, heven⟩ := Header.checksumAt?_bounds hat
  have hpos := transportRest_pos hread hat h.transportOffset stop length
  have hpresent' : ¬(h.transport = .udp ∧ checksum = 0) :=
    fun hzero => hpresent ⟨hzero.1, by rw [hchecksum, hzero.2]⟩
  have hmod := adjustTransportChecksum_mod hpresent' old (halfSum_octets32_pos hb)
  have hsame : ∀ i, 23 ≤ i → (i < 24 ∨ 26 ≤ i) → (i < 30 ∨ 34 ≤ i) →
      (i < offset ∨ offset + 2 ≤ i) → sent[i]? = frame[i]? := by
    intro i h₁ h₂ h₃ h₄
    refine hred.getElem?_eq (by omega) h₂ h₃ fun other hother => ?_
    rwa [← Option.some_inj.1 (hat.symm.trans hother)]
  have hrest := transportRest_congr stop length hsame hstart (by omega)
  have hbefore := transportSum_eq stop length hchecksum hold (by omega) hstop heven
  have hafter := transportSum_eq stop length hsent hred.address (by omega) hstop heven
  rw [hrest] at hafter
  have hiff : TransportValid h.transportOffset stop length sent ↔
      TransportValid h.transportOffset stop length frame := by
    rw [TransportValid, TransportValid, hbefore, hafter]
    exact carryFold_eq_max_iff_of_adjusted hpos hmod
  refine ⟨hiff, fun hvalid => ?_⟩
  have hlength : offset + 2 ≤ sent.length := by
    obtain ⟨v, hv, -⟩ := load16_eq_some_iff.1 hsent
    exact Octets.le_length_of_load hv
  have hzeroed : transportSum h.transportOffset stop length (sent.overwrite offset (octets16 0)) =
      transportRest offset h.transportOffset stop length frame + halfSum (octets32 b.address) := by
    rw [transportSum_zeroed length hred.address hlength hstart (by omega) hstop heven, hrest]
  -- before a zero is written as `0xffff`, the adjusted checksum is the computed one
  obtain ⟨hlt, hmod'⟩ := adjustChecksum_spec checksum old (halfSum_octets32_pos hb)
  have hcomputed : adjustChecksum checksum old (octets32 b.address) = checksumOf
      (transportRest offset h.transportOffset stop length frame +
        halfSum (octets32 b.address)) := by
    rw [TransportValid, hbefore] at hvalid
    exact eq_checksumOf_of_valid hpos hlt ((carryFold_eq_max_iff_of_adjusted hpos hmod').2 hvalid)
  rw [hsent, adjustTransportChecksum_of_present hpresent', transportChecksum, hzeroed, hcomputed]

end Redirected

/-! ### Frames that are sent on -/

/-- What is known about a frame that is sent on in incremental mode. -/
lemma redirected_of_transmit {σ : Type} [Datapath σ] {settings : Settings} {state : σ}
    (hmode : settings.checksumMode = .incremental)
    (hsent : (process settings frame state).verdict = .transmit) :
    ∃ h b, Header.read? frame = some h ∧ (∃ offset, h.checksumAt? = some offset) ∧ b.address ≠ 0 ∧
      Redirected .incremental h b frame (process settings frame state).frame ∧
      Adjusted h b frame (process settings frame state).frame := by
  obtain ⟨h, pool, s, b, hread, hhanded, hsome, hred, hadj⟩ := exists_redirected hsent
  rw [hmode] at hred
  exact ⟨h, b, hread, hhanded.exists_checksumAt?, address_ne_zero_of_selectBackend hsome, hred,
    hadj hmode⟩

/-- **Checksums of a frame that is sent on are right exactly when they were right before**, and then
they are what a computation over the whole text gives. -/
theorem checksums_follow_redirection {σ : Type} [Datapath σ] (settings : Settings)
    (frame : Octets) (state : σ) (hmode : settings.checksumMode = .incremental)
    (hsent : (process settings frame state).verdict = .transmit) :
    let sent := (process settings frame state).frame
    (HeaderValid sent ↔ HeaderValid frame) ∧
      (HeaderValid frame → load16 sent 24 = some (headerChecksum sent)) ∧
      ∃ h offset, Header.read? frame = some h ∧ h.checksumAt? = some offset ∧
        (∀ stop length, offset + 2 ≤ stop →
          ¬(h.transport = .udp ∧ load16 frame offset = some 0) →
          (TransportValid h.transportOffset stop length sent ↔
              TransportValid h.transportOffset stop length frame) ∧
            (TransportValid h.transportOffset stop length frame → load16 sent offset =
              some (transportChecksum h.transport offset h.transportOffset stop length sent))) ∧
        (h.transport = .udp → (load16 sent offset = some 0 ↔ load16 frame offset = some 0)) := by
  intro sent
  obtain ⟨h, b, hread, ⟨offset, hat⟩, hb, hred, hadj⟩ := redirected_of_transmit hmode hsent
  obtain ⟨hiff, hchecksum⟩ := hred.header_valid hread hb hadj
  refine ⟨hiff, hchecksum, h, offset, hread, hat, fun stop length hstop hpresent => ?_,
    fun hudp => ?_⟩
  · exact hred.transport_valid hread hb hadj hat hpresent hstop length
  · obtain ⟨checksum, old, hbefore, -, hafter⟩ := hadj.transport offset hat
    rw [hbefore, hafter, hudp, Option.some_inj, Option.some_inj,
      adjustTransportChecksum_udp_eq_zero_iff]

/-- A request with four octets of options and an odd payload.  Its UDP checksum is chosen such that
the adjusted one comes out as zero. -/
def optionedRequest : Octets :=
  [2, 0, 0, 0, 0, 0xbb, 2, 0, 0, 0, 0, 0xaa, 8, 0,
    0x46, 0, 0, 35, 0x12, 0x34, 0x40, 0, 64, 17, 191, 89, 203, 0, 113, 5, 198, 51, 100, 1,
    1, 1, 1, 1,
    156, 64, 19, 196, 0, 11, 0xdf, 0xcf, 192, 200, 73]

/-- One signaling slot, which holds the backend `10.0.0.5`. -/
def singleSlot : Memory where
  slots := ⟨SlotTable.empty.set 0 { address := 0x0a000005, flags := 1 }, SlotTable.empty⟩

theorem optionedRequest_checksums :
    let settings : Settings := { signalingSlots := 1, checksum := 1 }
    let sent := (process settings optionedRequest singleSlot).frame
    settings.checksumMode = .incremental ∧
      (process settings optionedRequest singleSlot).verdict = .transmit ∧
      HeaderValid optionedRequest ∧ HeaderValid sent ∧
      load16 sent 24 = some (headerChecksum sent) ∧
      ∃ h offset, Header.read? optionedRequest = some h ∧ h.checksumAt? = some offset ∧
        TransportValid h.transportOffset 49 11 optionedRequest ∧
        load16 sent offset =
          some (transportChecksum h.transport offset h.transportOffset 49 11 sent) := by
  intro settings sent
  have hmode : settings.checksumMode = .incremental := rfl
  have hsent : (process settings optionedRequest singleSlot).verdict = .transmit := by
    decide
  have hvalid : HeaderValid optionedRequest := (carryFold_eq_max_iff (by decide)).2 (by decide)
  obtain ⟨hheader, hchecksum, h, offset, hread, hat, htransport, -⟩ :=
    checksums_follow_redirection settings optionedRequest singleSlot hmode hsent
  obtain rfl : (⟨0xcb007105, 0xc6336401, .udp, 40000, 5060, 38⟩ : Header) = h :=
    Option.some_inj.1 hread
  obtain rfl : 44 = offset := Option.some_inj.1 hat
  have hsegment : TransportValid 38 49 11 optionedRequest :=
    (carryFold_eq_max_iff (by decide)).2 (by decide)
  refine ⟨hmode, hsent, hvalid, hheader.2 hvalid, hchecksum hvalid, _, _, hread, hat, hsegment, ?_⟩
  exact (htransport 49 11 (by decide) (by decide)).2 hsegment

end VoiceSteering
