/-
# What a header that was read says about the frame

Reading a header is a chain of loads and tests.  `Header.read?_eq_some_iff` says what the chain
amounts to for any accessor; the lemmas after it draw the consequences for a list of octets: how
long the frame is, where its transport header lies, and which octets the header came from.

A frame that refuses some of its loads reads the header of its own frame or none.
-/
import Mathlib.Data.Option.Basic
import VoiceSteering.Frame.Header
import VoiceSteering.Proofs.Frame.Octets

namespace VoiceSteering.Frame

/-! ### Reading -/

section Reading

variable {φ : Type} [Access φ] {frame : φ} {h : Header}

/-- The octets that a transport header must have at least. -/
def Transport.minLength : Transport → ℕ
  | .udp => 8
  | .tcp => 20
  | .other _ => 0

/-- An octet of the leading part of an IPv4 header, zero behind its end. -/
def ipv4Octet (ip : Vector UInt8 20) (i : ℕ) : UInt8 := ip[i]?.getD 0

lemma Header.read?_eq_some_iff :
    Header.read? frame = some h ↔
      ∃ ip : Vector UInt8 20, load16 frame linkTypeAt = some ipv4LinkType ∧
        Access.load frame ipv4At 20 = some ip ∧
        (ipv4Octet ip 0).toNat / 16 = 4 ∧ 5 ≤ (ipv4Octet ip 0).toNat % 16 ∧
        h.transport = .ofProtocol (ipv4Octet ip 9) ∧
        h.transportOffset = ipv4At + 4 * ((ipv4Octet ip 0).toNat % 16) ∧
        h.source =
          word32 (ipv4Octet ip 12) (ipv4Octet ip 13) (ipv4Octet ip 14) (ipv4Octet ip 15) ∧
        h.destination =
          word32 (ipv4Octet ip 16) (ipv4Octet ip 17) (ipv4Octet ip 18) (ipv4Octet ip 19) ∧
        h.transport.ports? (word16 (ipv4Octet ip 6) (ipv4Octet ip 7)) frame h.transportOffset =
          some (h.sourcePort, h.destinationPort) := by
  simp only [Header.read?, Option.bind_eq_bind, Option.bind_eq_some_iff, Option.guard_eq_some',
    Option.pure_def, Option.some.injEq]
  constructor
  · rintro ⟨linkType, hlink, _, rfl, ip, hip, _, hversion, _, hwords, ⟨sourcePort, destinationPort⟩,
      hports, rfl⟩
    exact ⟨ip, hlink, hip, hversion, hwords, rfl, rfl, rfl, rfl, hports⟩
  · rintro ⟨ip, hlink, hip, hversion, hwords, htransport, hoffset, hsource, hdestination, hports⟩
    obtain ⟨source, destination, transport, sourcePort, destinationPort, transportOffset⟩ := h
    subst htransport hoffset hsource hdestination
    exact ⟨_, hlink, (), rfl, ip, hip, (), hversion, (), hwords, (sourcePort, destinationPort),
      hports, rfl⟩

lemma ports?_eq_some_iff {offset headerLength : ℕ} {ports : UInt16 × UInt16} :
    Frame.ports? frame offset headerLength = some ports ↔
      (∃ v, Access.load frame offset headerLength = some v) ∧
        ∃ v, Access.load frame offset 4 = some v ∧ halves v = ports := by
  simp only [Frame.ports?, Option.bind_eq_bind, Option.bind_eq_some_iff, Option.map_eq_map,
    Option.map_eq_some_iff, ← exists_and_right]

lemma Transport.ports?_eq_ite (transport : Transport) (fragment : UInt16) (offset : ℕ) :
    transport.ports? fragment frame offset =
      if transport.minLength = 0 then some (0, 0)
      else if fragment.toNat % 8192 = 0 then Frame.ports? frame offset transport.minLength
      else none := by
  cases transport <;> simp [Transport.ports?, Transport.minLength]

/-- The checksum lies inside the transport header, at an even distance from its start. -/
lemma Header.checksumAt?_bounds {h : Header} {offset : ℕ} (hat : h.checksumAt? = some offset) :
    h.transportOffset + 6 ≤ offset ∧
      offset + 2 ≤ h.transportOffset + h.transport.minLength ∧
      (offset - h.transportOffset) % 2 = 0 := by
  unfold Header.checksumAt? at hat
  split at hat
  · next htransport =>
    rw [htransport, ← Option.some_inj.1 hat, Transport.minLength]
    omega
  · next htransport =>
    rw [htransport, ← Option.some_inj.1 hat, Transport.minLength]
    omega
  · exact absurd hat (by simp)

lemma Header.transportOffset_bounds (hread : Header.read? frame = some h) :
    34 ≤ h.transportOffset ∧ h.transportOffset ≤ 74 := by
  obtain ⟨ip, -, -, -, hwords, -, hoffset, -⟩ := Header.read?_eq_some_iff.1 hread
  simp only [ipv4At] at hoffset
  omega

end Reading

/-! ### Lists of octets -/

section Octets

variable {frame : Octets} {h : Header}

lemma getElem?_of_ipv4_load {ip : Vector UInt8 20} (hip : frame.load ipv4At 20 = some ip) {i : ℕ}
    (hi : i < 20) : frame[ipv4At + i]? = some (ipv4Octet ip i) := by
  rw [Octets.getElem?_of_load hip hi, ipv4Octet, Vector.getElem?_eq_getElem hi, Option.getD_some]

lemma Header.le_length_of_read? (hread : Header.read? frame = some h) : 34 ≤ frame.length := by
  obtain ⟨ip, -, hip, -⟩ := Header.read?_eq_some_iff.1 hread
  exact Octets.le_length_of_load hip

/-- The whole transport header lies inside the frame, for transports that have one. -/
lemma Header.transportEnd_le_length (hread : Header.read? frame = some h) {offset : ℕ}
    (hat : h.checksumAt? = some offset) :
    h.transportOffset + h.transport.minLength ≤ frame.length := by
  obtain ⟨ip, -, -, -, -, -, -, -, -, hports⟩ := Header.read?_eq_some_iff.1 hread
  have hbounds := Header.checksumAt?_bounds hat
  rw [Transport.ports?_eq_ite, if_neg (by omega)] at hports
  split at hports
  · obtain ⟨⟨v, hv⟩, -⟩ := ports?_eq_some_iff.1 hports
    exact Octets.le_length_of_load hv
  · exact absurd hports (by simp)

end Octets

/-! ### Frames with refused loads -/

section Guarded

variable {φ : Type} [Access φ] {g : Guarded φ}

lemma Guarded.load_eq_some {offset n : ℕ} {v : Vector UInt8 n}
    (h : Access.load g offset n = some v) : Access.load g.frame offset n = some v := by
  by_cases hrefused : g.refusesLoad offset = true
  · simp [Access.load, hrefused] at h
  · simpa [Access.load, hrefused] using h

lemma Guarded.load16_eq_some {offset : ℕ} {w : UInt16} (h : load16 g offset = some w) :
    load16 g.frame offset = some w := by
  obtain ⟨v, hv, hw⟩ := Option.map_eq_some_iff.1 h
  exact Option.map_eq_some_iff.2 ⟨v, Guarded.load_eq_some hv, hw⟩

lemma Guarded.ports?_eq_some {transport : Transport} {fragment : UInt16} {offset : ℕ}
    {ports : UInt16 × UInt16} (h : transport.ports? fragment g offset = some ports) :
    transport.ports? fragment g.frame offset = some ports := by
  rw [Transport.ports?_eq_ite] at h ⊢
  split_ifs at h ⊢
  · exact h
  · obtain ⟨⟨v, hv⟩, u, hu, hports⟩ := ports?_eq_some_iff.1 h
    exact ports?_eq_some_iff.2
      ⟨⟨v, Guarded.load_eq_some hv⟩, u, Guarded.load_eq_some hu, hports⟩

/-- What a guarded frame lets read is the header of its own frame. -/
lemma Guarded.read?_eq_some {h : Header} (hread : Header.read? g = some h) :
    Header.read? g.frame = some h := by
  obtain ⟨ip, hlink, hip, hversion, hwords, htransport, hoffset, hsource, hdestination, hports⟩ :=
    Header.read?_eq_some_iff.1 hread
  exact Header.read?_eq_some_iff.2 ⟨ip, Guarded.load16_eq_some hlink, Guarded.load_eq_some hip,
    hversion, hwords, htransport, hoffset, hsource, hdestination, Guarded.ports?_eq_some hports⟩

end Guarded

end VoiceSteering.Frame
