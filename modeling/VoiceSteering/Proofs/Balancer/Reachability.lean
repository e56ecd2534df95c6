/-
# Which slots are reached

Loading a configuration warns of a backend in a slot beyond the modulus of its pool.  The warning
is exact: no flow is steered to such a slot, since remainders are smaller than the modulus, and to
every other slot with a backend some flow is, since every remainder is that of a flow.  With look-up
tables nothing is warned of, because a table names every usable backend and every entry of it is the
entry of a flow.
-/
import Mathlib.Tactic.Common
import VoiceSteering.Proofs.Balancer.Steering
import VoiceSteering.Proofs.Config.Layout
import VoiceSteering.Proofs.Maglev.Owner
import VoiceSteering.Proofs.Pipeline.Affinity
import VoiceSteering.Proofs.Selection.Mix

namespace VoiceSteering

open VoiceSteering.Frame (Header)
open VoiceSteering.Maglev (buildTable)

/-- Whether the frames of a flow are steered to a slot of a pool. -/
def Balancer.Steers (b : Balancer) (pool : Pool) (source : Address) (port : UInt16)
    (slot : ℕ) : Prop :=
  ∀ h : Header, h.source = source → h.sourcePort = port →
    selectSlot b.settings pool h b.memory = some slot

/-! ### Selection by the modulus -/

section Modulo

variable {settings : Settings} {pool : Pool} {m : Memory} {slot : ℕ}

lemma selectSlot_modulo (hmode : settings.selectorMode = .modulo) (h : Header) :
    selectSlot settings pool h m =
      some ((Selection.mix h.source h.sourcePort).toNat % settings.slots pool) := by
  rw [selectSlot, hmode]
  rfl

lemma exists_source_modulo (hmode : settings.selectorMode = .modulo)
    (hslot : slot < settings.slots pool) (port : UInt16) :
    ∃ source, ∀ h : Header, h.source = source → h.sourcePort = port →
      selectSlot settings pool h m = some slot := by
  have hmodulus : settings.slots pool ≤ 2 ^ 32 :=
    (settings.slots_le pool).trans (by decide)
  obtain ⟨source, hsource⟩ := Selection.exists_mix_mod_eq port hslot hmodulus
  refine ⟨source, ?_⟩
  rintro h rfl rfl
  rw [selectSlot_modulo hmode, hsource]

end Modulo

/-! ### Selection by a look-up table -/

lemma exists_source_maglev {settings : Settings} {pool : Pool} {m : Memory} {slot : ℕ}
    {b : Backend} (hmode : settings.selectorMode = .maglev)
    (hm : m.maglev.get pool = buildTable (m.slots.get pool).toList)
    (husable : (m.slots.get pool).UsableAt slot b) (port : UInt16) :
    ∃ source, ∀ h : Header, h.source = source → h.sourcePort = port →
      selectSlot settings pool h m = some slot := by
  have hslot : slot < 16 := (Vector.getElem?_eq_some_iff.1 husable.1).1
  have hlength : (m.slots.get pool).toList.length ≤ maglevSize := by
    rw [Vector.length_toList]
    decide
  have hb : (m.slots.get pool).toList[slot]? = some b := by
    rw [Vector.getElem?_toList, husable.1]
  obtain ⟨entry, hentry, hname⟩ := Maglev.exists_entry_eq hlength hb husable.2
  rw [← hm] at hname
  obtain ⟨source, hsource⟩ := Selection.exists_mix_mod_eq port hentry (by decide)
  refine ⟨source, ?_⟩
  rintro h rfl rfl
  have hindex : Selection.maglevIndex h.source h.sourcePort = entry := hsource
  simp only [selectSlot, hmode, Datapath.maglevEntry, hindex, hname, Option.bind_some,
    Selection.slotOfEntry_ofNat hslot]

/-! ### Loaded configurations -/

namespace Config

variable {c : Config} {pool : Pool} {slot : ℕ}

lemma selectorMode_settings (c : Config) : c.settings.selectorMode = c.selection.mode :=
  SelectorMode.ofRaw_toRaw c.selection.mode

/-- The modulus of an accepted configuration is the configured one. -/
lemma Sound.slots_settings (hc : c.Sound) (pool : Pool) :
    c.settings.slots pool = (c.slots pool).toNat := by
  obtain ⟨hpos, hle⟩ := hc.slots_bounds pool
  have hraw : c.settings.rawSlots pool = c.slots pool := by cases pool <;> rfl
  simp only [Settings.slots, hraw]
  rw [if_neg]
  omega

lemma isUnreachable_modulo (hmode : c.selection.mode = .modulo) :
    c.isUnreachable pool slot = true ↔ (c.slots pool).toNat ≤ slot := by
  simp [isUnreachable, hmode]

lemma isUnreachable_maglev (hmode : c.selection.mode = .maglev) :
    c.isUnreachable pool slot = false := by
  simp [isUnreachable, hmode]

end Config

namespace Balancer

variable {c : Config} {pool : Pool} {slot : ℕ}

lemma settings_perform_load (b : Balancer) (hc : c.isAccepted = true) :
    (b.perform (.load c)).settings = c.settings := by
  rw [perform, performLoad, if_pos hc]

/-- Only slots that can be reached are selected. -/
lemma isUnreachable_of_selectSlot (b : Balancer) (hc : c.isAccepted = true) {h : Header}
    (hselected : selectSlot (b.perform (.load c)).settings pool h (b.perform (.load c)).memory =
      some slot) :
    c.isUnreachable pool slot = false := by
  cases hmode : c.selection.mode with
  | maglev => exact Config.isUnreachable_maglev hmode
  | modulo =>
    have hsound : c.Sound := (Config.isAccepted_iff.1 hc).1
    rw [b.settings_perform_load hc,
      selectSlot_modulo ((Config.selectorMode_settings c).trans hmode)] at hselected
    obtain rfl := Option.some_inj.1 hselected
    rw [← Bool.not_eq_true, Config.isUnreachable_modulo hmode, Nat.not_le,
      ← hsound.slots_settings pool]
    exact Nat.mod_lt _ (c.settings.slots_pos pool)

/-- Every slot with a backend that can be reached is reached, from every port. -/
lemma exists_steers (b : Balancer) (hc : c.isAccepted = true) {backend : Backend}
    (husable : ((b.perform (.load c)).memory.slots.get pool).UsableAt slot backend)
    (hreachable : c.isUnreachable pool slot = false) (port : UInt16) :
    ∃ source, (b.perform (.load c)).Steers pool source port slot := by
  have hsettings := b.settings_perform_load hc
  cases hmode : c.selection.mode with
  | maglev =>
    refine exists_source_maglev ?_ (b.isCurrent_load hc pool) husable port
    rw [hsettings, Config.selectorMode_settings, hmode]
  | modulo =>
    have hsound : c.Sound := (Config.isAccepted_iff.1 hc).1
    refine exists_source_modulo ?_ ?_ port
    · rw [hsettings, Config.selectorMode_settings, hmode]
    · rwa [hsettings, hsound.slots_settings pool, ← Nat.not_le,
        ← Config.isUnreachable_modulo hmode, Bool.not_eq_true]

end Balancer

/-- **The warning of a slot that no flow reaches is exact.**  After an accepted configuration has
been loaded, and whatever was loaded before, there is a flow that is steered to the slot of a
configured backend if and only if laying out its pool does not warn of the slot.  A frame that is
steered there goes to that very backend, and no frame at all is steered to a slot with a warning.
With look-up tables there is no warning, and every configured backend is reached. -/
theorem warned_iff_unreached (b : Balancer) (c : Config) (hc : c.isAccepted = true) (pool : Pool)
    (position : ℕ) (e : Config.Entry) (he : (c.entries pool)[position]? = some e) :
    let loaded := b.perform (.load c)
    let slot := e.slotAt position
    let warning : Config.Unreachable := ⟨pool, slot, (c.slots pool).toNat⟩
    ((∃ source port, loaded.Steers pool source port slot) ↔ warning ∉ (c.layOut pool).2) ∧
    (∀ h : Header, selectSlot loaded.settings pool h loaded.memory = some slot →
      warning ∉ (c.layOut pool).2 ∧
        selectBackend loaded.settings pool h loaded.memory = some e.toBackend) ∧
    (c.selection.mode = .maglev →
      (c.layOut pool).2 = [] ∧ ∃ source port, loaded.Steers pool source port slot) := by
  intro loaded slot warning
  obtain ⟨table, htable⟩ := Config.exists_slotTable hc pool
  obtain ⟨haddress, hplaced⟩ := Config.getElem?_slotTable htable he
  have husable : (loaded.memory.slots.get pool).UsableAt slot e.toBackend := by
    rw [b.slots_perform_load hc htable]
    exact ⟨hplaced, Config.Entry.isUsable_toBackend haddress⟩
  have hsilent : warning ∉ (c.layOut pool).2 ↔ c.isUnreachable pool slot = false := by
    rw [Config.mem_warnings_iff htable he, Bool.not_eq_true]
  have hreached : c.isUnreachable pool slot = false →
      ∃ source port, loaded.Steers pool source port slot := by
    intro hreachable
    obtain ⟨source, hsource⟩ := b.exists_steers hc husable hreachable 0
    exact ⟨source, 0, hsource⟩
  refine ⟨?_, fun h hselected => ?_, fun hmode => ?_⟩
  · rw [hsilent]
    refine ⟨?_, hreached⟩
    rintro ⟨source, port, hsteers⟩
    exact b.isUnreachable_of_selectSlot hc (hsteers ⟨source, 0, .udp, port, 0, 0⟩ rfl rfl)
  · refine ⟨hsilent.2 (b.isUnreachable_of_selectSlot hc hselected), ?_⟩
    exact selectBackend_eq_some_iff.2 ⟨slot, hselected, husable⟩
  · exact ⟨Config.warnings_eq_nil htable hmode, hreached (Config.isUnreachable_maglev hmode)⟩

/-- Two backends of a pool of two slots, the second of them in slot 7. -/
def strayBackends : Config where
  selection := { signalingSlots := 2 }
  signalingBackends := [{ address := 0x0a000001, port := 5060 },
    { slot := some 7, address := 0x0a000002, port := 5060 }]

/-- The flows of a pool of two slots never meet the backend in slot 7. -/
theorem strayBackends_unreached :
    let loaded := ({} : Balancer).perform (.load strayBackends)
    strayBackends.isAccepted = true ∧
      (∃ source port, loaded.Steers .signaling source port 0) ∧
      ¬∃ source port, loaded.Steers .signaling source port 7 := by
  intro loaded
  have hc : strayBackends.isAccepted = true := by decide
  have hfirst := warned_iff_unreached {} strayBackends hc .signaling 0 _ rfl
  have hsecond := warned_iff_unreached {} strayBackends hc .signaling 1 _ rfl
  refine ⟨hc, hfirst.1.2 (by decide), fun hreached => hsecond.1.1 hreached (by decide)⟩

end VoiceSteering
