/-
# Classes of traffic

A frame is classified by the first of four arms that applies to it.  The settings record alone does
not say that at most one applies: the port of signaling over UDP could lie among the media ports, and
signaling over TLS could share its port with the API.  A configuration with such ports is not
accepted, so under the settings of an accepted one the order of the arms does not matter, and media
is never taken for signaling.
-/
import VoiceSteering.Proofs.Config.Accepted
import VoiceSteering.Proofs.Pipeline.InMemory

namespace VoiceSteering

open VoiceSteering.Frame (Access Header Octets)

/-- An arm of the classification. -/
inductive Arm where
  | signaling
  | media
  | signalingTls
  | api
deriving DecidableEq, Repr

namespace Arm

/-- All arms, in the order in which they are tried. -/
def all : List Arm := [signaling, media, signalingTls, api]

lemma mem_all (a : Arm) : a ∈ all := by
  cases a with
  | signaling | media | signalingTls | api => decide

/-- The class of the frames to which an arm applies. -/
def trafficClass : Arm → TrafficClass
  | signaling | signalingTls => .signaling
  | media => .media
  | api => .api

/-- Whether an arm applies to a frame with a header. -/
def Applies (settings : Settings) (h : Header) : Arm → Prop
  | signaling => h.transport = .udp ∧ h.destinationPort = settings.signalingPort
  | media => h.transport = .udp ∧
      settings.mediaStart ≤ h.destinationPort ∧ h.destinationPort ≤ settings.mediaEnd
  | signalingTls => h.transport = .tcp ∧ h.destinationPort = settings.signalingTlsPort
  | api => h.transport = .tcp ∧ h.destinationPort = settings.apiPort

instance (settings : Settings) (h : Header) (a : Arm) : Decidable (a.Applies settings h) := by
  cases a <;> exact instDecidableAnd

/-- The transport of the frames to which an arm applies. -/
def transport : Arm → Frame.Transport
  | signaling | media => .udp
  | signalingTls | api => .tcp

lemma Applies.transport_eq {settings : Settings} {h : Header} {a : Arm}
    (ha : a.Applies settings h) : h.transport = a.transport := by
  cases a with
  | signaling | media | signalingTls | api => exact ha.1

lemma not_applies {settings : Settings} {h : Header} {a : Arm} (hne : h.transport ≠ a.transport) :
    ¬a.Applies settings h :=
  fun ha => hne ha.transport_eq

end Arm

/-- The class of a frame when the arms are tried in a given order. -/
def classifyBy (arms : List Arm) (settings : Settings) (h : Header) : TrafficClass :=
  ((arms.find? fun a => a.Applies settings h).map Arm.trafficClass).getD .other

lemma classifyBy_cons (a : Arm) (arms : List Arm) (settings : Settings) (h : Header) :
    classifyBy (a :: arms) settings h =
      if a.Applies settings h then a.trafficClass else classifyBy arms settings h := by
  rw [classifyBy]
  split
  · next ha => rw [List.find?_cons_of_pos (by simpa using ha), Option.map_some, Option.getD_some]
  · next ha =>
    rw [List.find?_cons_of_neg (by simpa using ha)]
    rfl

lemma classify_eq_classifyBy (settings : Settings) (h : Header) :
    classify h settings = classifyBy Arm.all settings h := by
  rw [Arm.all, classifyBy_cons, classifyBy_cons, classifyBy_cons, classifyBy_cons, classify]
  cases htransport : h.transport with
  | udp =>
    have htls : ¬Arm.signalingTls.Applies settings h :=
      Arm.not_applies (by simp [htransport, Arm.transport])
    have hapi : ¬Arm.api.Applies settings h :=
      Arm.not_applies (by simp [htransport, Arm.transport])
    rw [if_neg htls, if_neg hapi]
    simp only [Arm.Applies, htransport, true_and]
    rfl
  | tcp =>
    have hsignaling : ¬Arm.signaling.Applies settings h :=
      Arm.not_applies (by simp [htransport, Arm.transport])
    have hmedia : ¬Arm.media.Applies settings h :=
      Arm.not_applies (by simp [htransport, Arm.transport])
    rw [if_neg hsignaling, if_neg hmedia]
    simp only [Arm.Applies, htransport, true_and]
    rfl
  | other protocol =>
    have hnone : ∀ a : Arm, ¬a.Applies settings h := fun a =>
      Arm.not_applies (by cases a <;> simp [htransport, Arm.transport])
    rw [if_neg (hnone _), if_neg (hnone _), if_neg (hnone _), if_neg (hnone _)]
    rfl

/-- No frame is subject to two arms. -/
def Settings.Unambiguous (settings : Settings) : Prop :=
  ∀ (h : Header) (a b : Arm), a.Applies settings h → b.Applies settings h → a = b

/-- Under the settings of an accepted configuration the classes are disjoint: arms of different
transports exclude each other in any case, and of the two pairs of one transport each is kept apart by
a rule. -/
lemma Config.Sound.unambiguous {c : Config} (hc : c.Sound) : c.settings.Unambiguous := by
  intro h a b ha hb
  have hudp (hsignaling : Arm.signaling.Applies c.settings h) :
      ¬Arm.media.Applies c.settings h := by
    rintro ⟨-, hmedia⟩
    rw [hsignaling.2] at hmedia
    exact hc.signaling_not_media hmedia
  have htcp (htls : Arm.signalingTls.Applies c.settings h) : ¬Arm.api.Applies c.settings h :=
    fun hapi => hc.tls_ne_api (htls.2.symm.trans hapi.2)
  have htransport : a.transport = b.transport := ha.transport_eq.symm.trans hb.transport_eq
  cases a with
  | signaling =>
    cases b with
    | signaling => rfl
    | media => exact absurd hb (hudp ha)
    | signalingTls | api => exact absurd htransport (by decide)
  | media =>
    cases b with
    | signaling => exact absurd ha (hudp hb)
    | media => rfl
    | signalingTls | api => exact absurd htransport (by decide)
  | signalingTls =>
    cases b with
    | signaling | media => exact absurd htransport (by decide)
    | signalingTls => rfl
    | api => exact absurd hb (htcp ha)
  | api =>
    cases b with
    | signaling | media => exact absurd htransport (by decide)
    | signalingTls => exact absurd ha (htcp hb)
    | api => rfl

namespace Settings.Unambiguous

variable {settings : Settings} (hone : settings.Unambiguous) {h : Header} {a : Arm}

include hone

/-- An arm that applies is found wherever it stands. -/
lemma find?_eq (ha : a.Applies settings h) {arms : List Arm} (hmem : a ∈ arms) :
    arms.find? (fun a => a.Applies settings h) = some a := by
  cases hfind : arms.find? fun a => a.Applies settings h with
  | none => exact absurd ha (by simpa using List.find?_eq_none.1 hfind a hmem)
  | some b =>
    have hb : b.Applies settings h := by simpa using List.find?_some hfind
    rw [hone h b a hb ha]

lemma classify_eq (ha : a.Applies settings h) : classify h settings = a.trafficClass := by
  rw [classify_eq_classifyBy, classifyBy, hone.find?_eq ha a.mem_all]
  rfl

/-- The order of the arms does not matter. -/
lemma classifyBy_eq {arms : List Arm} (hperm : arms.Perm Arm.all) (h : Header) :
    classifyBy arms settings h = classify h settings := by
  by_cases hsome : ∃ a : Arm, a.Applies settings h
  · obtain ⟨a, ha⟩ := hsome
    have hmem : a ∈ arms := hperm.mem_iff.2 a.mem_all
    rw [hone.classify_eq ha, classifyBy, hone.find?_eq ha hmem]
    rfl
  · have hnone : ∀ order : List Arm, order.find? (fun a => a.Applies settings h) = none := by
      intro order
      rw [List.find?_eq_none]
      rintro a -
      simpa using fun ha => hsome ⟨a, ha⟩
    rw [classify_eq_classifyBy, classifyBy, classifyBy, hnone, hnone]

end Settings.Unambiguous

/-- A frame of a class that is not balanced is counted, and nothing else happens. -/
lemma process_of_unbalanced {φ σ : Type} [Access φ] [Datapath σ] {settings : Settings} {frame : φ}
    {h : Header} (hread : Header.read? frame = some h)
    (hclass : (classify h settings).pool? = none) (state : σ) :
    process settings frame state = ⟨.pass, frame, counted frame state⟩ := by
  have hending := process_ending settings frame state
  generalize process settings frame state = outcome at hending
  cases hending with
  | unread hread' => exact absurd (hread.symm.trans hread') (by simp)
  | unbalanced => rfl
  | denied hread' hclass' =>
    obtain rfl := Option.some_inj.1 (hread.symm.trans hread')
    exact absurd (hclass' ▸ hclass) (by decide)
  | noBackend hread' hhanded | redirected hread' hhanded | abandoned hread' hhanded =>
    obtain rfl := Option.some_inj.1 (hread.symm.trans hread')
    exact absurd (hclass.symm.trans hhanded.pool?_eq) (by simp)

/-- **The classes of an accepted configuration are disjoint, and media passes untouched.**  No frame
is subject to two arms of the classification, so the arms can be tried in any order; and a frame over
UDP to a media port is passed as it came, in every state of the maps, and leaves no trace but in the
counters of frames and octets. -/
theorem media_untouched (c : Config) (hc : c.isAccepted = true) :
    (∀ (h : Header) (a b : Arm),
      a.Applies c.settings h → b.Applies c.settings h → a = b) ∧
    (∀ (arms : List Arm) (h : Header), arms.Perm Arm.all →
      classifyBy arms c.settings h = classify h c.settings) ∧
    ∀ {φ : Type} [Access φ] (frame : φ) (h : Header) (m : Memory),
      Header.read? frame = some h → h.transport = .udp →
      c.ports.mediaStart ≤ h.destinationPort → h.destinationPort ≤ c.ports.mediaEnd →
      let outcome := process c.settings frame m
      outcome.verdict = .pass ∧ outcome.frame = frame ∧ outcome.state.rates = m.rates ∧
        outcome.state.slots = m.slots ∧ outcome.state.maglev = m.maglev ∧
        ∀ counter : Counter, counter ≠ .packets → counter ≠ .bytes →
          Tally.value outcome.state.counters counter = Tally.value m.counters counter := by
  have hone := (Config.isAccepted_iff.1 hc).1.unambiguous
  refine ⟨hone, fun arms h hperm => hone.classifyBy_eq hperm h, ?_⟩
  intro φ _ frame h m hread htransport hstart hend outcome
  have hmedia : Arm.media.Applies c.settings h := ⟨htransport, hstart, hend⟩
  have hclass : (classify h c.settings).pool? = none := by
    rw [hone.classify_eq hmedia]
    rfl
  have houtcome : outcome = ⟨.pass, frame, counted frame m⟩ := process_of_unbalanced hread hclass m
  rw [houtcome]
  refine ⟨rfl, rfl, rfl, rfl, rfl, fun counter hpackets hbytes => ?_⟩
  rw [Memory.counted_eq, Counters.value_add, Counters.value_add, if_neg hpackets, if_neg hbytes,
    UInt64.add_zero, UInt64.add_zero]

/-- A datagram of a call to port 10000. -/
def mediaDatagram : Octets :=
  [2, 0, 0, 0, 0, 0xbb, 2, 0, 0, 0, 0, 0xaa, 8, 0,
    0x45, 0, 0, 28, 0, 0, 0x40, 0, 64, 17, 0, 0, 203, 0, 113, 5, 198, 51, 100, 1,
    156, 64, 39, 16, 0, 8, 0, 0]

/-- The first media port is the port of the API as well, and signaling is at the port before it. -/
theorem mediaDatagram_untouched :
    let c : Config := { ports := { signaling := 9999, api := 10000 } }
    let m : Memory := { rates := { records := [(0xcb007105, ⟨7, 2⟩)] }, clock := 5 }
    let outcome := process c.settings mediaDatagram m
    c.isAccepted = true ∧ outcome.verdict = .pass ∧ outcome.frame = mediaDatagram ∧
      outcome.state.rates = m.rates ∧
      Tally.value outcome.state.counters .signalingRequests = 0 := by
  intro c m outcome
  have hc : c.isAccepted = true := by decide
  obtain ⟨-, -, hmedia⟩ := media_untouched c hc
  obtain ⟨hpass, hframe, hrates, -, -, hcounters⟩ := hmedia mediaDatagram
    ⟨0xcb007105, 0xc6336401, .udp, 40000, 10000, 34⟩ m rfl rfl (by decide) (by decide)
  exact ⟨hc, hpass, hframe, hrates, hcounters .signalingRequests (by decide) (by decide)⟩

end VoiceSteering
