/-
# What a redirection does to a frame

A redirection is a list of patches, computed by loads alone and stored afterwards.  The patches of
one redirection do not overlap, so each of them can be read back from the result and every octet
outside all of them is as before.  `Redirected` says octet by octet what that comes to, and
`Adjusted` says which checksums are stored in incremental mode.

For a list of octets whose header was read, every load succeeds and every patch fits, so the
redirection is always completed (`redirect_octets`).  A frame that refuses some loads but honours
every store is either left alone or redirected as its own frame is (`redirect_guarded`).
-/
import VoiceSteering.Proofs.Pipeline.Ending

namespace VoiceSteering

open VoiceSteering.Frame (Access Header Octets Guarded octets16 octets32 load16)

/-! ### Lists of patches -/

namespace Patch

/-- The patch lies inside a frame. -/
def Fits (frame : Octets) (p : Patch) : Prop := p.offset + p.size ≤ frame.length

/-- The patch leaves an octet alone. -/
def Misses (p : Patch) (i : ℕ) : Prop := i < p.offset ∨ p.offset + p.size ≤ i

/-- The two patches have no octet in common. -/
def Apart (p q : Patch) : Prop := p.offset + p.size ≤ q.offset ∨ q.offset + q.size ≤ p.offset

end Patch

/-- The frame with all patches stored. -/
def patched : List Patch → Octets → Octets
  | [], frame => frame
  | p :: ps, frame => patched ps (frame.overwrite p.offset p.octets)

section Patched

variable {ps : List Patch} {frame : Octets}

lemma applyPatches_eq_patched (hfits : ∀ p ∈ ps, p.Fits frame) :
    applyPatches ps frame = (true, patched ps frame) := by
  induction ps generalizing frame with
  | nil => rfl
  | cons p ps ih =>
    have hstore : Access.store frame p.offset p.octets =
        some (frame.overwrite p.offset p.octets) :=
      Octets.store_eq_some p.octets (hfits p (by simp))
    have hrest : ∀ q ∈ ps, q.Fits (frame.overwrite p.offset p.octets) := by
      intro q hq
      simpa [Patch.Fits] using hfits q (by simp [hq])
    simp only [applyPatches, hstore, patched]
    exact ih hrest

@[simp] lemma length_patched : (patched ps frame).length = frame.length := by
  induction ps generalizing frame with
  | nil => rfl
  | cons p ps ih => rw [patched, ih, Octets.length_overwrite]

lemma getElem?_patched {i : ℕ} (hmiss : ∀ p ∈ ps, p.Misses i) :
    (patched ps frame)[i]? = frame[i]? := by
  induction ps generalizing frame with
  | nil => rfl
  | cons p ps ih =>
    rw [patched, ih fun q hq => hmiss q (by simp [hq])]
    exact Octets.getElem?_overwrite_of_notMem (hmiss p (by simp))

/-- Each patch can be read back, since no later one touches it. -/
lemma load_patched (hfits : ∀ p ∈ ps, p.Fits frame) (hapart : ps.Pairwise Patch.Apart) {p : Patch}
    (hp : p ∈ ps) : (patched ps frame).load p.offset p.size = some p.octets := by
  induction ps generalizing frame with
  | nil => exact absurd hp (by simp)
  | cons q ps ih =>
    obtain ⟨hq, hrest⟩ := List.pairwise_cons.1 hapart
    rcases List.mem_cons.1 hp with rfl | hp
    · -- the patch is stored now, and what is stored later leaves its octets alone
      rw [patched, ← Octets.load_overwrite_self p.octets (hfits p (by simp))]
      refine Octets.load_congr length_patched fun i hi hi' => getElem?_patched fun r hr => ?_
      have := hq r hr
      simp only [Patch.Apart, Patch.Misses] at this ⊢
      omega
    · refine ih (fun r hr => ?_) hrest hp
      simpa [Patch.Fits] using hfits r (by simp [hr])

/-- The frame `after` is the frame `before` with patches stored: each of them can be read back, and
every octet outside all of them is as before. -/
structure Patched (ps : List Patch) (before after : Octets) : Prop where
  length_eq : after.length = before.length
  load_eq : ∀ p ∈ ps, after.load p.offset p.size = some p.octets
  elsewhere : ∀ i, (∀ p ∈ ps, p.Misses i) → after[i]? = before[i]?

/-- Patches that fit and have no octet in common are all stored. -/
lemma exists_patched (hfits : ∀ p ∈ ps, p.Fits frame) (hapart : ps.Pairwise Patch.Apart) :
    ∃ sent, applyPatches ps frame = (true, sent) ∧ Patched ps frame sent :=
  ⟨patched ps frame, applyPatches_eq_patched hfits, length_patched,
    fun _ hp => load_patched hfits hapart hp, fun _ hmiss => getElem?_patched hmiss⟩

end Patched

/-! ### The effect of a redirection -/

/-- The octets that a redirection may change: both link-layer addresses, the IPv4 checksum, the
destination address and, in incremental mode, the transport checksum. -/
def Touched (mode : ChecksumMode) (h : Header) (i : ℕ) : Prop :=
  i < 12 ∨ (24 ≤ i ∧ i < 26) ∨ (30 ≤ i ∧ i < 34) ∨
    (mode = .incremental ∧ ∃ offset, h.checksumAt? = some offset ∧ offset ≤ i ∧ i < offset + 2)

/-- The frame `after` is the frame `before` pointed at a backend. -/
structure Redirected (mode : ChecksumMode) (h : Header) (b : Backend) (before after : Octets) :
    Prop where
  length_eq : after.length = before.length
  elsewhere : ∀ i, ¬Touched mode h i → after[i]? = before[i]?
  address : after.load 30 4 = some (octets32 b.address)
  /-- A known link-layer address becomes the destination, and the frame comes from where it was
  going to. -/
  link_of_mac : ∀ mac, b.mac? = some mac →
    after.load 0 6 = some mac.octets ∧ after.load 6 6 = before.load 0 6
  /-- Without one the frame goes back to its sender. -/
  link_of_none : b.mac? = none →
    after.load 0 6 = before.load 6 6 ∧ after.load 6 6 = before.load 6 6
  offload : mode = .offload → after.load 24 2 = some #v[0, 0]

/-- Octets behind the link-layer addresses are as before, but for the checksums and the destination
address. -/
lemma Redirected.getElem?_eq {mode : ChecksumMode} {h : Header} {b : Backend}
    {before after : Octets} (hred : Redirected mode h b before after) {i : ℕ} (hlink : 12 ≤ i)
    (hheader : i < 24 ∨ 26 ≤ i) (haddress : i < 30 ∨ 34 ≤ i)
    (htransport : ∀ offset, h.checksumAt? = some offset → i < offset ∨ offset + 2 ≤ i) :
    after[i]? = before[i]? := by
  refine hred.elsewhere i fun htouched => ?_
  rcases htouched with hi | hi | hi | ⟨-, offset, hat, hi⟩
  · omega
  · omega
  · omega
  · have := htransport offset hat
    omega

/-- The transport checksum after the destination address changed.  A UDP checksum of zero says that
there is none, so it stays, and a computed zero is written as `0xffff`. -/
def adjustTransportChecksum (transport : Frame.Transport) (checksum : UInt16)
    (old new : Vector UInt8 4) : UInt16 :=
  if transport = .udp ∧ checksum = 0 then 0
  else if transport = .udp ∧ Frame.adjustChecksum checksum old new = 0 then 0xffff
  else Frame.adjustChecksum checksum old new

lemma adjustTransportChecksum_of_present {transport : Frame.Transport} {checksum : UInt16}
    (hpresent : ¬(transport = .udp ∧ checksum = 0)) (old new : Vector UInt8 4) :
    adjustTransportChecksum transport checksum old new =
      if transport = .udp ∧ Frame.adjustChecksum checksum old new = 0 then 0xffff
      else Frame.adjustChecksum checksum old new :=
  if_neg hpresent

/-- A UDP checksum stays absent or stays present. -/
lemma adjustTransportChecksum_udp_eq_zero_iff (checksum : UInt16) (old new : Vector UInt8 4) :
    adjustTransportChecksum .udp checksum old new = 0 ↔ checksum = 0 := by
  constructor
  · intro hzero
    by_contra hchecksum
    rw [adjustTransportChecksum_of_present (fun hudp => hchecksum hudp.2)] at hzero
    split at hzero
    · exact absurd hzero (by decide)
    · next hadjusted => exact hadjusted ⟨rfl, hzero⟩
  · rintro rfl
    exact if_pos ⟨rfl, rfl⟩

/-- The checksums of `after` are those of `before`, adjusted to the address of a backend. -/
structure Adjusted (h : Header) (b : Backend) (before after : Octets) : Prop where
  header : ∃ checksum old, load16 before 24 = some checksum ∧ before.load 30 4 = some old ∧
    load16 after 24 = some (Frame.adjustChecksum checksum old (octets32 b.address))
  transport : ∀ offset, h.checksumAt? = some offset → ∃ checksum old,
    load16 before offset = some checksum ∧ before.load 30 4 = some old ∧
      load16 after offset =
        some (adjustTransportChecksum h.transport checksum old (octets32 b.address))

/-! ### The patches of a redirection -/

section Octets

variable {frame : Octets} {h : Header}

lemma load16_eq_some_iff {offset : ℕ} {w : UInt16} :
    load16 frame offset = some w ↔ ∃ v, frame.load offset 2 = some v ∧ Frame.word16Of v = w :=
  Option.map_eq_some_iff

lemma load16_of_load {offset : ℕ} {w : UInt16} (hload : frame.load offset 2 = some (octets16 w)) :
    load16 frame offset = some w :=
  load16_eq_some_iff.2 ⟨_, hload, Frame.word16Of_octets16 w⟩

lemma load_of_load16 {offset : ℕ} {w : UInt16} (hload : load16 frame offset = some w) :
    frame.load offset 2 = some (octets16 w) := by
  obtain ⟨v, hv, rfl⟩ := load16_eq_some_iff.1 hload
  rw [hv, Frame.octets16_word16Of]

lemma exists_load16 {offset : ℕ} (hle : offset + 2 ≤ frame.length) :
    ∃ w, load16 frame offset = some w := by
  obtain ⟨v, hv⟩ := Octets.exists_load hle
  exact ⟨_, load16_eq_some_iff.2 ⟨v, hv, rfl⟩⟩

/-- The patches to the transport checksum: none in offload mode, for a transport without a checksum
and for an absent UDP checksum, and else one. -/
inductive TransportPatches (mode : ChecksumMode) (frame : Octets) (h : Header)
    (old new : Vector UInt8 4) : List Patch → Prop where
  | none (habsent : mode = .incremental → ∀ offset, h.checksumAt? = some offset →
      h.transport = .udp ∧ load16 frame offset = some 0) :
      TransportPatches mode frame h old new []
  | one {offset : ℕ} {checksum : UInt16} (hmode : mode = .incremental)
      (hat : h.checksumAt? = some offset) (hload : load16 frame offset = some checksum)
      (hpresent : ¬(h.transport = .udp ∧ checksum = 0)) :
      TransportPatches mode frame h old new
        [⟨offset, octets16 (adjustTransportChecksum h.transport checksum old new)⟩]

lemma transportPatches_octets (hread : Header.read? frame = some h) (old new : Vector UInt8 4) :
    ∃ ps, transportPatches frame h old new = some ps ∧
      TransportPatches .incremental frame h old new ps := by
  rcases hat : h.checksumAt? with _ | offset
  · refine ⟨[], by simp only [transportPatches, hat], .none fun _ offset hsome => ?_⟩
    exact absurd (hat.symm.trans hsome) (by simp)
  · have hend := Header.transportEnd_le_length hread hat
    have hbounds := Header.checksumAt?_bounds hat
    have hle : offset + 2 ≤ frame.length := by omega
    obtain ⟨checksum, hload⟩ := exists_load16 hle
    by_cases habsent : h.transport = .udp ∧ checksum = 0
    · refine ⟨[], ?_, .none fun _ other hother => ?_⟩
      · simp [transportPatches, hat, hload, habsent]
      · obtain rfl : offset = other := Option.some_inj.1 (hat.symm.trans hother)
        exact ⟨habsent.1, by rw [hload, habsent.2]⟩
    · refine ⟨_, ?_, .one rfl hat hload habsent⟩
      simp only [transportPatches, hat, hload, Option.bind_eq_bind, Option.bind_some,
        adjustTransportChecksum, if_neg habsent]
      rfl

/-- The patches to the checksums: one to the IPv4 header, then those to the transport header. -/
lemma checksumPatches_octets (hread : Header.read? frame = some h) (mode : ChecksumMode)
    (old new : Vector UInt8 4) :
    ∃ header ps, checksumPatches mode frame h old new = some (⟨24, octets16 header⟩ :: ps) ∧
      (mode = .offload → header = 0) ∧
      (mode = .incremental → ∃ checksum, load16 frame 24 = some checksum ∧
        header = Frame.adjustChecksum checksum old new) ∧
      TransportPatches mode frame h old new ps := by
  cases mode with
  | offload => exact ⟨0, [], rfl, fun _ => rfl, by simp, .none (by simp)⟩
  | incremental =>
    have hlength := Header.le_length_of_read? hread
    have hle : 24 + 2 ≤ frame.length := by omega
    obtain ⟨checksum, hload⟩ := exists_load16 hle
    obtain ⟨ps, hps, htransport⟩ := transportPatches_octets hread old new
    refine ⟨_, ps, ?_, by simp, fun _ => ⟨checksum, hload, rfl⟩, htransport⟩
    simp only [checksumPatches, Frame.ipv4ChecksumAt, hload, hps, Option.bind_eq_bind,
      Option.bind_some]
    rfl

/-- The link-layer addresses that point a frame at a backend. -/
def LinkAddresses (frame : Octets) (b : Backend) (toLink fromLink : Vector UInt8 6) : Prop :=
  (∀ mac, b.mac? = some mac → toLink = mac.octets ∧ frame.load 0 6 = some fromLink) ∧
    (b.mac? = none → frame.load 6 6 = some toLink ∧ frame.load 6 6 = some fromLink)

/-- Everything that a redirection to a backend has to store, and where it comes from. -/
structure Plan (mode : ChecksumMode) (frame : Octets) (h : Header) (b : Backend) where
  toLink : Vector UInt8 6
  fromLink : Vector UInt8 6
  /-- The destination address of the frame. -/
  old : Vector UInt8 4
  /-- The new IPv4 checksum. -/
  header : UInt16
  /-- The patches to the transport checksum. -/
  transport : List Patch
  link : LinkAddresses frame b toLink fromLink
  load_old : frame.load 30 4 = some old
  offload : mode = .offload → header = 0
  incremental : mode = .incremental → ∃ checksum, load16 frame 24 = some checksum ∧
    header = Frame.adjustChecksum checksum old (octets32 b.address)
  adjust : TransportPatches mode frame h old (octets32 b.address) transport

/-- The patches of a redirection, in the order in which they are stored. -/
def Plan.patches {mode : ChecksumMode} {b : Backend} (plan : Plan mode frame h b) : List Patch :=
  ⟨0, plan.toLink⟩ :: ⟨6, plan.fromLink⟩ :: ⟨30, octets32 b.address⟩ ::
    ⟨24, octets16 plan.header⟩ :: plan.transport

lemma exists_plan (hread : Header.read? frame = some h) (mode : ChecksumMode) (b : Backend) :
    ∃ plan : Plan mode frame h b, redirection mode frame h b = some plan.patches := by
  have hlength := Header.le_length_of_read? hread
  have hle₀ : 0 + 6 ≤ frame.length := by omega
  have hle₆ : 6 + 6 ≤ frame.length := by omega
  have hle₃₀ : 30 + 4 ≤ frame.length := by omega
  obtain ⟨destination, hdestination⟩ := Octets.exists_load hle₀
  obtain ⟨source, hsource⟩ := Octets.exists_load hle₆
  obtain ⟨old, hold⟩ := Octets.exists_load hle₃₀
  obtain ⟨header, ps, hchecksums, hoffload, hincremental, htransport⟩ :=
    checksumPatches_octets hread mode old (octets32 b.address)
  have hloads : ∀ {n offset : ℕ}, Access.load frame offset n = frame.load offset n := rfl
  rcases hmac : b.mac? with _ | mac
  · have hlink : LinkAddresses frame b source source :=
      ⟨fun mac hsome => absurd (hmac.symm.trans hsome) (by simp), fun _ => ⟨hsource, hsource⟩⟩
    refine ⟨⟨source, source, old, header, ps, hlink, hold, hoffload, hincremental, htransport⟩, ?_⟩
    simp only [redirection, Frame.linkDestinationAt, Frame.linkSourceAt, Frame.ipv4DestinationAt,
      hloads, hdestination, hsource, hold, hchecksums, hmac, Option.bind_eq_bind, Option.bind_some]
    rfl
  · have hlink : LinkAddresses frame b mac.octets destination := by
      refine ⟨fun other hother => ?_, fun hnone => absurd (hmac.symm.trans hnone) (by simp)⟩
      exact ⟨by rw [Option.some_inj.1 (hmac.symm.trans hother)], hdestination⟩
    refine ⟨⟨mac.octets, destination, old, header, ps, hlink, hold, hoffload, hincremental,
      htransport⟩, ?_⟩
    simp only [redirection, Frame.linkDestinationAt, Frame.linkSourceAt, Frame.ipv4DestinationAt,
      hloads, hdestination, hsource, hold, hchecksums, hmac, Option.bind_eq_bind, Option.bind_some]
    rfl

lemma TransportPatches.fits {mode : ChecksumMode} {old new : Vector UInt8 4} {ps : List Patch}
    (hps : TransportPatches mode frame h old new ps) (hread : Header.read? frame = some h) :
    ∀ p ∈ ps, p.Fits frame ∧ 34 ≤ p.offset := by
  cases hps with
  | none => simp
  | one _ hat =>
    have hoffset := Header.transportOffset_bounds hread
    have hend := Header.transportEnd_le_length hread hat
    have hbounds := Header.checksumAt?_bounds hat
    intro p hp
    obtain rfl := List.mem_singleton.1 hp
    simp only [Patch.Fits]
    omega

namespace Plan

variable {mode : ChecksumMode} {b : Backend} (plan : Plan mode frame h b)

/-- All patches but those to the transport checksum end before the transport header. -/
lemma near_or_transport {p : Patch} (hp : p ∈ plan.patches) :
    p.offset + p.size ≤ 34 ∨ p ∈ plan.transport := by
  simp only [patches, List.mem_cons] at hp
  rcases hp with rfl | rfl | rfl | rfl | hp
  · exact .inl (by simp)
  · exact .inl (by simp)
  · exact .inl (by simp)
  · exact .inl (by simp)
  · exact .inr hp

/-- The patches of a redirection lie inside the frame. -/
lemma fits (hread : Header.read? frame = some h) : ∀ p ∈ plan.patches, p.Fits frame := by
  intro p hp
  rcases plan.near_or_transport hp with hnear | htransport
  · exact Nat.le_trans hnear (Header.le_length_of_read? hread)
  · exact (plan.adjust.fits hread p htransport).1

/-- The patches of a redirection have no octet in common. -/
lemma apart (hread : Header.read? frame = some h) : plan.patches.Pairwise Patch.Apart := by
  have hfar := plan.adjust.fits hread
  have hself : plan.transport.Pairwise Patch.Apart := by
    have hadjust := plan.adjust
    generalize plan.transport = ps at hadjust
    cases hadjust with
    | none => exact List.Pairwise.nil
    | one => exact List.pairwise_singleton _ _
  -- all patches but those to the transport checksum end before the transport header
  have hnear : ∀ {p : Patch}, p.offset + p.size ≤ 34 → ∀ q ∈ plan.transport, p.Apart q :=
    fun hp q hq => .inl (Nat.le_trans hp (hfar q hq).2)
  simp only [patches, List.pairwise_cons, List.mem_cons, forall_eq_or_imp]
  refine ⟨⟨.inl ?_, .inl ?_, .inl ?_, hnear ?_⟩, ⟨.inl ?_, .inl ?_, hnear ?_⟩,
    ⟨.inr ?_, hnear ?_⟩, hnear ?_, hself⟩ <;> simp

lemma misses {i : ℕ} (hi : ¬Touched mode h i) : ∀ p ∈ plan.patches, p.Misses i := by
  simp only [Touched, not_or, not_and, Nat.not_lt, not_exists] at hi
  obtain ⟨hlink, hheader, haddress, htransport⟩ := hi
  have hadjust := plan.adjust
  intro p hp
  simp only [patches, List.mem_cons] at hp
  generalize plan.transport = ps at hadjust hp
  rcases hp with rfl | rfl | rfl | rfl | hp
  · simp only [Patch.Misses]; omega
  · simp only [Patch.Misses]; omega
  · simp only [Patch.Misses]; omega
  · simp only [Patch.Misses]; omega
  · cases hadjust with
    | none => exact absurd hp (by simp)
    | @one offset _ hmode hat =>
      have := htransport hmode offset hat
      obtain rfl := List.mem_singleton.1 hp
      simp only [Patch.Misses]
      omega

variable {sent : Octets}

/-- The frame with the patches of a plan stored points at the backend. -/
lemma redirected (hsent : Patched plan.patches frame sent) : Redirected mode h b frame sent := by
  have hto : sent.load 0 6 = some plan.toLink := hsent.load_eq ⟨0, plan.toLink⟩ (by simp [patches])
  have hfrom : sent.load 6 6 = some plan.fromLink :=
    hsent.load_eq ⟨6, plan.fromLink⟩ (by simp [patches])
  have haddress : sent.load 30 4 = some (octets32 b.address) :=
    hsent.load_eq ⟨30, octets32 b.address⟩ (by simp [patches])
  have hheader : sent.load 24 2 = some (octets16 plan.header) :=
    hsent.load_eq ⟨24, octets16 plan.header⟩ (by simp [patches])
  refine ⟨hsent.length_eq, fun i hi => hsent.elsewhere i (plan.misses hi), haddress, ?_, ?_, ?_⟩
  · intro mac hmac
    obtain ⟨htoLink, hdestination⟩ := plan.link.1 mac hmac
    exact ⟨by rw [hto, htoLink], hfrom.trans hdestination.symm⟩
  · intro hmac
    obtain ⟨hsource, hsource'⟩ := plan.link.2 hmac
    exact ⟨hto.trans hsource.symm, hfrom.trans hsource'.symm⟩
  · intro hmode
    rw [hheader, plan.offload hmode]
    rfl

end Plan

lemma load16_congr {other : Octets} {offset : ℕ} (hlen : other.length = frame.length)
    (h : ∀ i, offset ≤ i → i < offset + 2 → other[i]? = frame[i]?) :
    load16 other offset = load16 frame offset :=
  congrArg (Option.map Frame.word16Of) (Octets.load_congr hlen h)

/-- In incremental mode the stored checksums are the adjusted ones. -/
lemma Plan.adjusted {b : Backend} (plan : Plan .incremental frame h b) {sent : Octets}
    (hread : Header.read? frame = some h) (hsent : Patched plan.patches frame sent) :
    Adjusted h b frame sent := by
  obtain ⟨header, hheader, hadjusted⟩ := plan.incremental rfl
  have hstored : sent.load 24 2 = some (octets16 plan.header) :=
    hsent.load_eq ⟨24, octets16 plan.header⟩ (by simp [patches])
  refine ⟨⟨header, plan.old, hheader, plan.load_old, ?_⟩, fun offset hat => ?_⟩
  · rw [← hadjusted]
    exact load16_of_load hstored
  · have hadjust := plan.adjust
    have hload : ∀ p ∈ plan.transport, sent.load p.offset p.size = some p.octets :=
      fun p hp => hsent.load_eq p (by simp [patches, hp])
    have hnear : ∀ p ∈ plan.patches, p.offset + p.size ≤ 34 ∨ p ∈ plan.transport :=
      fun p hp => plan.near_or_transport hp
    generalize plan.transport = ps at hadjust hload hnear
    cases hadjust with
    | none habsent =>
      -- an absent UDP checksum is stored nowhere and lies behind every patch
      obtain ⟨hudp, hzero⟩ := habsent rfl offset hat
      have hoffset := Header.transportOffset_bounds hread
      have hbounds := Header.checksumAt?_bounds hat
      refine ⟨0, plan.old, hzero, plan.load_old, ?_⟩
      rw [adjustTransportChecksum, if_pos ⟨hudp, rfl⟩, ← hzero]
      refine load16_congr hsent.length_eq fun i hi _ => hsent.elsewhere i fun p hp => .inr ?_
      have hend := (hnear p hp).resolve_right List.not_mem_nil
      omega
    | @one other checksum _ hother hchecksum _ =>
      obtain rfl : other = offset := Option.some_inj.1 (hother.symm.trans hat)
      exact ⟨checksum, plan.old, hchecksum, plan.load_old,
        load16_of_load (hload _ (List.mem_singleton.2 rfl))⟩

/-- **A redirection of a frame whose header was read is always completed.** -/
theorem redirect_octets (hread : Header.read? frame = some h) (mode : ChecksumMode)
    (b : Backend) :
    ∃ sent, redirect mode frame h b = (true, sent) ∧ Redirected mode h b frame sent ∧
      (mode = .incremental → Adjusted h b frame sent) := by
  obtain ⟨plan, hplan⟩ := exists_plan hread mode b
  obtain ⟨sent, happly, hsent⟩ := exists_patched (plan.fits hread) (plan.apart hread)
  refine ⟨sent, by rw [redirect, hplan]; exact happly, plan.redirected hsent, ?_⟩
  rintro rfl
  exact plan.adjusted hread hsent

/-- A frame that is sent on was redirected to the backend selected for it. -/
lemma exists_redirected {σ : Type} [Datapath σ] {settings : Settings} {state : σ}
    (hsent : (process settings frame state).verdict = .transmit) :
    ∃ h pool s b, Header.read? frame = some h ∧
      Handed settings h (counted frame state) pool s ∧
      selectBackend settings pool h s = some b ∧
      Redirected settings.checksumMode h b frame (process settings frame state).frame ∧
      (settings.checksumMode = .incremental →
        Adjusted h b frame (process settings frame state).frame) := by
  have hending := process_ending settings frame state
  generalize process settings frame state = outcome at hsent hending
  cases hending with
  | unread | unbalanced | denied | noBackend | abandoned => exact absurd hsent (by simp)
  | @redirected h pool s b f hread hhanded hsome hredirect =>
    obtain ⟨f', hf', hred, hadj⟩ := redirect_octets hread settings.checksumMode b
    obtain rfl : f' = f := (Prod.mk.inj (hf'.symm.trans hredirect)).2
    exact ⟨h, pool, s, b, hread, hhanded, hsome, hred, hadj⟩

end Octets

/-! ### Frames with refused loads -/

section Guarded

variable {φ : Type} [Access φ] {g : Guarded φ} {h : Header}

lemma transportPatches_guarded {old new : Vector UInt8 4} {ps : List Patch}
    (hps : transportPatches g h old new = some ps) :
    transportPatches g.frame h old new = some ps := by
  rcases hat : h.checksumAt? with _ | offset
  · simpa only [transportPatches, hat] using hps
  · simp only [transportPatches, hat, Option.bind_eq_bind, Option.bind_eq_some_iff] at hps ⊢
    obtain ⟨checksum, hload, hrest⟩ := hps
    exact ⟨checksum, Guarded.load16_eq_some hload, hrest⟩

lemma checksumPatches_guarded {mode : ChecksumMode} {old new : Vector UInt8 4} {ps : List Patch}
    (hps : checksumPatches mode g h old new = some ps) :
    checksumPatches mode g.frame h old new = some ps := by
  cases mode with
  | offload => exact hps
  | incremental =>
    simp only [checksumPatches, Option.bind_eq_bind, Option.bind_eq_some_iff] at hps ⊢
    obtain ⟨checksum, hload, rest, hrest, hps⟩ := hps
    exact ⟨checksum, Guarded.load16_eq_some hload, rest, transportPatches_guarded hrest, hps⟩

lemma redirection_guarded {mode : ChecksumMode} {b : Backend} {ps : List Patch}
    (hps : redirection mode g h b = some ps) : redirection mode g.frame h b = some ps := by
  simp only [redirection, Option.bind_eq_bind, Option.bind_eq_some_iff] at hps ⊢
  obtain ⟨destination, hdestination, source, hsource, old, hold, checksums, hchecksums, hps⟩ := hps
  exact ⟨destination, Guarded.load_eq_some hdestination, source, Guarded.load_eq_some hsource, old,
    Guarded.load_eq_some hold, checksums, checksumPatches_guarded hchecksums, hps⟩

/-- When no store is refused, patches are stored as in the frame itself. -/
lemma applyPatches_guarded (hstores : ∀ offset, g.refusesStore offset = false) (ps : List Patch) :
    applyPatches ps g =
      ((applyPatches ps g.frame).1, { g with frame := (applyPatches ps g.frame).2 }) := by
  induction ps generalizing g with
  | nil => rfl
  | cons p ps ih =>
    have hstore : Access.store g p.offset p.octets =
        (Access.store g.frame p.offset p.octets).map fun frame => { g with frame } := by
      simp [Access.store, hstores]
    rcases hinner : Access.store g.frame p.offset p.octets with _ | frame
    · simp only [applyPatches, hstore, hinner, Option.map_none, ih hstores]
    · simp only [applyPatches, hstore, hinner, Option.map_some]
      exact ih (g := { g with frame }) hstores

/-- A frame that refuses loads but no stores is either left alone or redirected completely. -/
lemma redirect_guarded {g : Guarded Octets} (hstores : ∀ offset, g.refusesStore offset = false)
    (hread : Header.read? g = some h) (mode : ChecksumMode) (b : Backend) :
    redirect mode g h b = (false, g) ∨
      ∃ sent, redirect mode g h b = (true, { g with frame := sent }) ∧
        Redirected mode h b g.frame sent := by
  rcases hps : redirection mode g h b with _ | ps
  · exact .inl (by rw [redirect, hps])
  · right
    obtain ⟨sent, hsent, hredirected, -⟩ := redirect_octets (Guarded.read?_eq_some hread) mode b
    rw [redirect, redirection_guarded hps] at hsent
    refine ⟨sent, ?_, hredirected⟩
    rw [redirect, hps]
    simp only [applyPatches_guarded hstores, hsent]

end Guarded

end VoiceSteering
