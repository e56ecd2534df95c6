/-
# The grammar of frames that can be classified

`Header.read?` loads a few octets at a time and gives up at the first load that is refused or test
that fails.  Here the frames that it reads are described at once, by their length and their octets:
`Octets.Classifiable` is the grammar and `Octets.header` the addressing that it assigns.

A frame is read no further than its `Header.leastLength`, the end of the IPv4 header without its
options or the end of the transport header.  So a frame that agrees with another one up to there is
read alike, and among the prefixes of a frame those that reach it are exactly the ones that can be
classified.
-/
import VoiceSteering.Proofs.Frame.Header

namespace VoiceSteering.Frame

namespace Octets

/-! ### Octets and words at any offset -/

/-- The octet at an offset, zero behind the end of the frame. -/
def octet (frame : Octets) (offset : ℕ) : UInt8 := frame[offset]?.getD 0

/-- The big-endian 16-bit word at an offset. -/
def half (frame : Octets) (offset : ℕ) : UInt16 :=
  word16 (frame.octet offset) (frame.octet (offset + 1))

/-- The big-endian 32-bit word at an offset. -/
def word (frame : Octets) (offset : ℕ) : UInt32 :=
  word32 (frame.octet offset) (frame.octet (offset + 1)) (frame.octet (offset + 2))
    (frame.octet (offset + 3))

/-! ### The grammar -/

/-- The version of the IP header. -/
def version (frame : Octets) : ℕ := (frame.octet 14).toNat / 16

/-- The length of the IPv4 header, in words of four octets. -/
def headerWords (frame : Octets) : ℕ := (frame.octet 14).toNat % 16

/-- Where the IPv4 header ends and the transport header starts. -/
def transportStart (frame : Octets) : ℕ := 14 + 4 * frame.headerWords

/-- The protocol number of the payload. -/
def protocol (frame : Octets) : UInt8 := frame.octet 23

/-- The 13-bit fragment offset. -/
def fragmentOffset (frame : Octets) : ℕ := (frame.half 20).toNat % 8192

/-- The payload is TCP or UDP. -/
def HasPorts (frame : Octets) : Prop := frame.protocol = 6 ∨ frame.protocol = 17

instance (frame : Octets) : Decidable frame.HasPorts :=
  inferInstanceAs (Decidable (_ ∨ _))

/-- The frames that can be classified. -/
structure Classifiable (frame : Octets) : Prop where
  le_length : 34 ≤ frame.length
  linkType : frame.half 12 = 0x0800
  version : frame.version = 4
  headerWords : 5 ≤ frame.headerWords
  first : frame.HasPorts → frame.fragmentOffset = 0
  udp : frame.protocol = 17 → frame.transportStart + 8 ≤ frame.length
  tcp : frame.protocol = 6 → frame.transportStart + 20 ≤ frame.length

/-- The source port and the destination port, zero for transports without ports. -/
def ports (frame : Octets) : UInt16 × UInt16 :=
  if frame.HasPorts then (frame.half frame.transportStart, frame.half (frame.transportStart + 2))
  else (0, 0)

/-- The addressing of a frame that can be classified. -/
def header (frame : Octets) : Header where
  source := frame.word 26
  destination := frame.word 30
  transport := .ofProtocol frame.protocol
  sourcePort := frame.ports.1
  destinationPort := frame.ports.2
  transportOffset := frame.transportStart

/-! ### Loads -/

variable {frame : Octets} {offset n : ℕ}

lemma load_eq_some_iff_octet {v : Vector UInt8 n} :
    frame.load offset n = some v ↔
      offset + n ≤ frame.length ∧ ∀ i (hi : i < n), v[i] = frame.octet (offset + i) := by
  rw [load_eq_some_iff]
  refine and_congr_right fun hle => forall₂_congr fun i hi => ?_
  rw [octet, List.getElem?_eq_getElem (by omega), Option.getD_some, Option.some_inj, eq_comm]

lemma load16_eq_some_iff_half {w : UInt16} :
    load16 frame offset = some w ↔ offset + 2 ≤ frame.length ∧ frame.half offset = w := by
  have hword {v : Vector UInt8 2} (hv : frame.load offset 2 = some v) :
      word16Of v = frame.half offset := by
    have hoctet := (load_eq_some_iff_octet.1 hv).2
    rw [word16Of, hoctet 0 (by omega), hoctet 1 (by omega), Nat.add_zero, half]
  constructor
  · intro h
    obtain ⟨v, hv, rfl⟩ := Option.map_eq_some_iff.1 h
    exact ⟨le_length_of_load hv, (hword hv).symm⟩
  · rintro ⟨hle, rfl⟩
    obtain ⟨v, hv⟩ := exists_load hle
    exact Option.map_eq_some_iff.2 ⟨v, hv, hword hv⟩

end Octets

section Grammar

variable {frame other : Octets} {h : Header}

/-! ### Reading by the grammar -/

lemma Octets.ports?_eq_some_iff_half {offset n : ℕ} (hn : 4 ≤ n) {ports : UInt16 × UInt16} :
    Frame.ports? frame offset n = some ports ↔
      offset + n ≤ frame.length ∧ (frame.half offset, frame.half (offset + 2)) = ports := by
  have hhalves {v : Vector UInt8 4} (hv : frame.load offset 4 = some v) :
      halves v = (frame.half offset, frame.half (offset + 2)) := by
    have hoctet := (Octets.load_eq_some_iff_octet.1 hv).2
    simp only [halves, Octets.half, hoctet _ _, Nat.add_zero, Nat.add_assoc, Nat.reduceAdd]
  rw [ports?_eq_some_iff]
  constructor
  · rintro ⟨⟨whole, hwhole⟩, v, hv, rfl⟩
    exact ⟨Octets.le_length_of_load hwhole, (hhalves hv).symm⟩
  · rintro ⟨hle, rfl⟩
    obtain ⟨v, hv⟩ : ∃ v, frame.load offset 4 = some v := Octets.exists_load (by omega)
    exact ⟨Octets.exists_load hle, v, hv, hhalves hv⟩

/-- The ports can be read if the fragment is the first one and the transport header is whole. -/
lemma Octets.transportPorts?_eq_some_iff {p : UInt16 × UInt16} :
    (Transport.ofProtocol frame.protocol).ports? (frame.half 20) frame frame.transportStart =
        some p ↔
      ((frame.HasPorts → frame.fragmentOffset = 0) ∧
        (frame.protocol = 17 → frame.transportStart + 8 ≤ frame.length) ∧
        (frame.protocol = 6 → frame.transportStart + 20 ≤ frame.length)) ∧ frame.ports = p := by
  rw [Transport.ports?_eq_ite, Octets.fragmentOffset]
  by_cases hudp : frame.protocol = 17
  · have htransport : Transport.ofProtocol frame.protocol = .udp := by
      simp [Transport.ofProtocol, hudp]
    rw [htransport, Transport.minLength, if_neg (by omega), Option.ite_none_right_eq_some,
      Octets.ports?_eq_some_iff_half (by omega)]
    simp [Octets.ports, Octets.HasPorts, hudp, and_assoc]
  · by_cases htcp : frame.protocol = 6
    · have htransport : Transport.ofProtocol frame.protocol = .tcp := by
        simp [Transport.ofProtocol, htcp]
      rw [htransport, Transport.minLength, if_neg (by omega), Option.ite_none_right_eq_some,
        Octets.ports?_eq_some_iff_half (by omega)]
      simp [Octets.ports, Octets.HasPorts, htcp, and_assoc]
    · have htransport : Transport.ofProtocol frame.protocol = .other frame.protocol := by
        simp [Transport.ofProtocol, hudp, htcp]
      rw [htransport, Transport.minLength, if_pos rfl]
      simp [Octets.ports, Octets.HasPorts, hudp, htcp]

lemma Octets.ipv4Octet_eq_octet {ip : Vector UInt8 20} (hip : frame.load ipv4At 20 = some ip)
    {i : ℕ} (hi : i < 20) : ipv4Octet ip i = frame.octet (14 + i) := by
  rw [ipv4Octet, Vector.getElem?_eq_getElem hi, Option.getD_some,
    (Octets.load_eq_some_iff_octet.1 hip).2, ipv4At]

/-- The grammar is what the chain of loads and tests accepts. -/
lemma Octets.read?_eq_some_iff_classifiable :
    Header.read? frame = some h ↔ frame.Classifiable ∧ frame.header = h := by
  rw [Header.read?_eq_some_iff]
  constructor
  · rintro ⟨ip, hlink, hip, hfields⟩
    simp only [Octets.ipv4Octet_eq_octet hip, Nat.reduceLT, Nat.reduceAdd] at hfields
    obtain ⟨hversion, hwords, htransport, hoffset, hsource, hdestination, hports⟩ := hfields
    rw [htransport, hoffset] at hports
    obtain ⟨⟨hfirst, hudp, htcp⟩, hp⟩ := Octets.transportPorts?_eq_some_iff.1 hports
    refine ⟨⟨Octets.le_length_of_load hip, (Octets.load16_eq_some_iff_half.1 hlink).2, hversion,
      hwords, hfirst, hudp, htcp⟩, ?_⟩
    obtain ⟨source, destination, transport, sourcePort, destinationPort, transportOffset⟩ := h
    subst htransport hoffset hsource hdestination
    rw [Octets.header, hp]
    rfl
  · rintro ⟨hclass, rfl⟩
    have hle : 34 ≤ frame.length := hclass.le_length
    obtain ⟨ip, hip⟩ : ∃ ip, frame.load ipv4At 20 = some ip := Octets.exists_load hle
    refine ⟨ip, Octets.load16_eq_some_iff_half.2 ⟨by rw [linkTypeAt]; omega, hclass.linkType⟩,
      hip, ?_⟩
    simp only [Octets.ipv4Octet_eq_octet hip, Nat.reduceLT, Nat.reduceAdd]
    exact ⟨hclass.version, hclass.headerWords, rfl, rfl, rfl, rfl,
      Octets.transportPorts?_eq_some_iff.2 ⟨⟨hclass.first, hclass.udp, hclass.tcp⟩, rfl⟩⟩

/-! ### Prefixes -/

section Agree

variable {n : ℕ} (hagree : ∀ i < n, other[i]? = frame[i]?)
include hagree

lemma Octets.octet_eq_of_agree {i : ℕ} (hi : i < n) : other.octet i = frame.octet i := by
  rw [Octets.octet, Octets.octet, hagree i hi]

lemma Octets.half_eq_of_agree {i : ℕ} (hi : i + 2 ≤ n) : other.half i = frame.half i := by
  rw [Octets.half, Octets.half, octet_eq_of_agree hagree (by omega),
    octet_eq_of_agree hagree (by omega)]

lemma Octets.word_eq_of_agree {i : ℕ} (hi : i + 4 ≤ n) : other.word i = frame.word i := by
  simp only [Octets.word, octet_eq_of_agree hagree (show i < n by omega),
    octet_eq_of_agree hagree (show i + 1 < n by omega),
    octet_eq_of_agree hagree (show i + 2 < n by omega),
    octet_eq_of_agree hagree (show i + 3 < n by omega)]

lemma Octets.protocol_eq_of_agree (hn : 34 ≤ n) : other.protocol = frame.protocol :=
  octet_eq_of_agree hagree (by omega)

lemma Octets.transportStart_eq_of_agree (hn : 34 ≤ n) :
    other.transportStart = frame.transportStart := by
  rw [Octets.transportStart, Octets.transportStart, Octets.headerWords, Octets.headerWords,
    octet_eq_of_agree hagree (by omega)]

lemma Octets.ports_eq_of_agree (hn : 34 ≤ n)
    (hports : frame.HasPorts → frame.transportStart + 4 ≤ n) : other.ports = frame.ports := by
  have hhas : other.HasPorts ↔ frame.HasPorts := by
    rw [Octets.HasPorts, Octets.HasPorts, protocol_eq_of_agree hagree hn]
  rw [Octets.ports, Octets.ports, transportStart_eq_of_agree hagree hn]
  by_cases h : frame.HasPorts
  · have hstart := hports h
    rw [if_pos (hhas.2 h), if_pos h, half_eq_of_agree hagree (by omega),
      half_eq_of_agree hagree (by omega)]
  · rw [if_neg (hhas.not.2 h), if_neg h]

lemma Octets.le_length_of_agree (hle : n ≤ frame.length) : n ≤ other.length := by
  by_contra hlt
  have hend := hagree other.length (by omega)
  rw [List.getElem?_eq_none (by omega), eq_comm, List.getElem?_eq_none_iff] at hend
  omega

end Agree

/-- How many leading octets a header is read from: those of the IPv4 header without its options,
or all up to the end of the transport header. -/
def Header.leastLength (h : Header) : ℕ :=
  match h.transport with
  | .other _ => 34
  | .udp => h.transportOffset + 8
  | .tcp => h.transportOffset + 20

lemma Octets.leastLength_header :
    frame.header.leastLength =
      if frame.protocol = 17 then frame.transportStart + 8
      else if frame.protocol = 6 then frame.transportStart + 20 else 34 := by
  simp only [Header.leastLength, Octets.header, Transport.ofProtocol]
  split_ifs <;> rfl

lemma Octets.Classifiable.leastLength_bounds (hclass : frame.Classifiable) :
    34 ≤ frame.header.leastLength ∧ frame.header.leastLength ≤ frame.length := by
  have hle := hclass.le_length
  have hwords := hclass.headerWords
  rw [Octets.leastLength_header, Octets.transportStart]
  split_ifs with hudp htcp
  · exact ⟨by omega, hclass.udp hudp⟩
  · exact ⟨by omega, hclass.tcp htcp⟩
  · exact ⟨by omega, hle⟩

lemma Octets.portsEnd_le_leastLength (hports : frame.HasPorts) :
    frame.transportStart + 4 ≤ frame.header.leastLength := by
  rw [Octets.leastLength_header]
  rcases hports with htcp | hudp
  · rw [if_neg (by simp [htcp]), if_pos htcp]
    omega
  · rw [if_pos hudp]
    omega

/-- Nothing behind the least length has a say in how a frame is read. -/
lemma Octets.Classifiable.of_agree (hclass : frame.Classifiable)
    (hagree : ∀ i < frame.header.leastLength, other[i]? = frame[i]?) :
    other.Classifiable ∧ other.header = frame.header := by
  obtain ⟨hleast, hlength⟩ := hclass.leastLength_bounds
  have hle : 34 ≤ other.length := Nat.le_trans hleast (le_length_of_agree hagree hlength)
  have hprotocol := protocol_eq_of_agree hagree hleast
  have hstart := transportStart_eq_of_agree hagree hleast
  have hports := ports_eq_of_agree hagree hleast portsEnd_le_leastLength
  have hheader : other.header = frame.header := by
    rw [Octets.header, Octets.header, hports, hstart, hprotocol,
      word_eq_of_agree hagree (by omega), word_eq_of_agree hagree (by omega)]
  -- with equal headers the least lengths are equal, so `other` is long enough for its own header
  have hend := le_length_of_agree hagree hlength
  rw [← hheader, leastLength_header] at hend
  refine ⟨⟨hle, ?_, ?_, ?_, ?_, ?_, ?_⟩, hheader⟩
  · rw [half_eq_of_agree hagree (by omega)]
    exact hclass.linkType
  · rw [Octets.version, octet_eq_of_agree hagree (by omega)]
    exact hclass.version
  · rw [Octets.headerWords, octet_eq_of_agree hagree (by omega)]
    exact hclass.headerWords
  · rw [Octets.HasPorts, hprotocol, fragmentOffset, half_eq_of_agree hagree (by omega)]
    exact hclass.first
  · intro hudp
    rwa [if_pos hudp] at hend
  · intro htcp
    rwa [if_neg (by simp [htcp]), if_pos htcp] at hend

lemma Octets.read?_of_agree (hread : Header.read? frame = some h)
    (hagree : ∀ i < h.leastLength, other[i]? = frame[i]?) : Header.read? other = some h := by
  obtain ⟨hclass, rfl⟩ := read?_eq_some_iff_classifiable.1 hread
  exact read?_eq_some_iff_classifiable.2 (hclass.of_agree hagree)

lemma Octets.leastLength_le_length (hread : Header.read? frame = some h) :
    h.leastLength ≤ frame.length := by
  obtain ⟨hclass, rfl⟩ := read?_eq_some_iff_classifiable.1 hread
  exact hclass.leastLength_bounds.2

/-- What follows a prefix that reaches the least length is of no importance. -/
lemma Octets.read?_take_append {n : ℕ} (hread : Header.read? frame = some h)
    (hn : h.leastLength ≤ n) (more : Octets) :
    Header.read? (frame.take n ++ more) = some h := by
  have hle := leastLength_le_length hread
  refine read?_of_agree hread fun i hi => ?_
  rw [List.getElem?_append_left (by rw [List.length_take]; omega),
    List.getElem?_take_of_lt (by omega)]

/-- A prefix that can be classified is read as the frame is, and reaches the least length. -/
lemma Octets.read?_take_eq_none {n : ℕ} (hread : Header.read? frame = some h)
    (hn : n < h.leastLength) : Header.read? (frame.take n) = none := by
  rw [Option.eq_none_iff_forall_ne_some]
  intro h' htake
  have hle : h'.leastLength ≤ n :=
    Nat.le_trans (leastLength_le_length htake) (List.length_take_le n frame)
  have hframe : Header.read? frame = some h' := by
    refine read?_of_agree htake fun i hi => ?_
    rw [List.getElem?_take_of_lt (by omega)]
  rw [hread, Option.some_inj] at hframe
  subst hframe
  omega

lemma Octets.shortestHeader?_eq (hread : Header.read? frame = some h) :
    frame.shortestHeader? = some h.leastLength := by
  have hle := leastLength_le_length hread
  have hleast : Header.read? (frame.take h.leastLength) = some h := by
    simpa using read?_take_append hread (Nat.le_refl _) []
  rw [Octets.shortestHeader?, List.find?_range_eq_some]
  refine ⟨by rw [hleast]; rfl, by simpa using Nat.lt_succ_of_le hle, fun n hn => ?_⟩
  rw [read?_take_eq_none hread hn]
  rfl

/-- A frame is read exactly when it is in the grammar, and its addressing is the one that the
grammar assigns.  Of its prefixes those shorter than the least length cannot be classified, and all
others are read as the frame is, whatever follows them. -/
theorem Octets.read_iff_grammar_and_prefixes (frame : Octets) :
    (∀ h, Header.read? frame = some h ↔ frame.Classifiable ∧ frame.header = h) ∧
    ∀ h, Header.read? frame = some h →
      h.leastLength ≤ frame.length ∧ frame.shortestHeader? = some h.leastLength ∧
      (∀ n < h.leastLength, Header.read? (frame.take n) = none) ∧
      ∀ n, h.leastLength ≤ n → ∀ more, Header.read? (frame.take n ++ more) = some h := by
  refine ⟨fun h => read?_eq_some_iff_classifiable, ?_⟩
  intro h hread
  refine ⟨leastLength_le_length hread, shortestHeader?_eq hread, ?_, ?_⟩
  · intro n hn
    exact read?_take_eq_none hread hn
  · intro n hn more
    exact read?_take_append hread hn more

/-- A TCP segment of `203.0.113.5` whose IPv4 header has one word of options, with three octets of
payload. -/
def optionedSegment : Octets :=
  [2, 0, 0, 0, 0, 0xbb, 2, 0, 0, 0, 0, 0xaa, 8, 0,
    0x46, 0, 0, 47, 0, 0, 0x40, 0, 64, 6, 0, 0, 203, 0, 113, 5, 198, 51, 100, 1, 1, 1, 1, 1,
    156, 64, 19, 197, 0, 0, 0, 1, 0, 0, 0, 0, 0x50, 2, 4, 0, 0, 0, 0, 0, 0x4f, 0x50, 0x54]

/-- The segment is classified from its first 58 octets on. -/
theorem optionedSegment_prefixes :
    let h : Header := ⟨0xcb007105, 0xc6336401, .tcp, 40000, 5061, 38⟩
    Header.read? optionedSegment = some h ∧ optionedSegment.Classifiable ∧
      optionedSegment.shortestHeader? = some 58 ∧
      Header.read? (optionedSegment.take 57) = none ∧
      Header.read? (optionedSegment.take 58 ++ [0x42, 0x59, 0x45]) = some h := by
  intro h
  have hread : Header.read? optionedSegment = some h := by decide
  obtain ⟨hgrammar, hprefixes⟩ := Octets.read_iff_grammar_and_prefixes optionedSegment
  obtain ⟨-, hshortest, hshorter, hlonger⟩ := hprefixes h hread
  exact ⟨hread, ((hgrammar h).1 hread).1, hshortest, hshorter 57 (by decide),
    hlonger 58 (by decide) _⟩

end Grammar

end VoiceSteering.Frame
