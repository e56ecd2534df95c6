/-
# Where look-up tables steer frames

A look-up table that was built from the slots of its pool names a usable slot in every entry, or
none at all if the pool has no usable slot.  So in a state that control-plane operations lead to, a
frame of a balanced class that the rate limit admits is sent to a usable backend exactly when its
pool has one.
-/
import VoiceSteering.Proofs.Balancer.Operation
import VoiceSteering.Proofs.Maglev.Fill
import VoiceSteering.Proofs.Pipeline.InMemory
import VoiceSteering.Proofs.Pipeline.Redirection

namespace VoiceSteering

open VoiceSteering.Frame (Header Octets)
open VoiceSteering.Maglev (buildTable)

/-- The backend `b` in a slot may receive traffic. -/
def SlotTable.UsableAt (table : SlotTable) (slot : ℕ) (b : Backend) : Prop :=
  table[slot]? = some b ∧ b.isUsable = true

/-! ### Selection by a current table -/

lemma Selection.slotOfEntry_ofNat {slot : ℕ} (hslot : slot < 16) :
    slotOfEntry (UInt32.ofNat slot) = some slot := by
  have htoNat : (UInt32.ofNat slot).toNat = slot :=
    UInt32.toNat_ofNat_of_lt' (Nat.lt_trans hslot (by decide))
  rw [slotOfEntry, htoNat]
  exact if_pos hslot

variable {settings : Settings} {pool : Pool} {h : Header} {m : Memory}

lemma selectBackend_of_usable (hmode : settings.selectorMode = .maglev)
    (hm : m.maglev.get pool = buildTable (m.slots.get pool).toList)
    (husable : ∃ slot b, (m.slots.get pool).UsableAt slot b) :
    ∃ slot b, (m.slots.get pool).UsableAt slot b ∧ selectBackend settings pool h m = some b := by
  have hsome : ∃ b ∈ (m.slots.get pool).toList, b.isUsable = true := by
    obtain ⟨slot, b, hb, hactive⟩ := husable
    rw [← Vector.getElem?_toList] at hb
    exact ⟨b, List.mem_of_getElem? hb, hactive⟩
  have hnumbered : Maglev.Numbered (m.slots.get pool).toList :=
    Maglev.numbered_of_length_lt (by
      rw [Vector.length_toList]
      decide)
  obtain ⟨slot, b, hb, hactive, hentry⟩ := Maglev.getElem?_buildTable hnumbered hsome
    (Selection.maglevIndex_lt h.source h.sourcePort)
  rw [← hm] at hentry
  have hslot : slot < 16 := by
    have := (List.getElem?_eq_some_iff.1 hb).1
    rwa [Vector.length_toList] at this
  rw [Vector.getElem?_toList] at hb
  have hselected : selectSlot settings pool h m = some slot := by
    simp only [selectSlot, hmode, Datapath.maglevEntry, hentry, Option.bind_some,
      Selection.slotOfEntry_ofNat hslot]
  refine ⟨slot, b, ⟨hb, hactive⟩, ?_⟩
  simp only [selectBackend, hselected, Option.bind_some, Datapath.backend, hb]
  rw [Option.filter_some, if_pos hactive]

lemma selectBackend_of_no_usable (hmode : settings.selectorMode = .maglev)
    (hm : m.maglev.get pool = buildTable (m.slots.get pool).toList)
    (hnone : ¬∃ slot b, (m.slots.get pool).UsableAt slot b) :
    selectBackend settings pool h m = none := by
  have hunusable : ∀ b ∈ (m.slots.get pool).toList, b.isUsable = false := by
    intro b hb
    obtain ⟨slot, hslot⟩ := List.getElem?_of_mem hb
    rw [Vector.getElem?_toList] at hslot
    rw [← Bool.not_eq_true]
    exact fun hactive => hnone ⟨slot, b, hslot, hactive⟩
  have hentry : (m.maglev.get pool)[Selection.maglevIndex h.source h.sourcePort]? =
      some maglevEmpty := by
    rw [hm, Maglev.buildTable_eq_blank hunusable, Maglev.Table.blank, Vector.getElem?_replicate]
    exact if_pos (Selection.maglevIndex_lt _ _)
  simp only [selectBackend, selectSlot, hmode, Datapath.maglevEntry, hentry, Option.bind_some,
    Selection.slotOfEntry_maglevEmpty, Option.bind_none, Option.filter_none]

/-! ### One frame -/

variable {frame : Octets}

/-- What happens to a frame of a balanced class that is not dropped. -/
theorem process_of_current (hmode : settings.selectorMode = .maglev) (hm : m.IsCurrent)
    (hread : Header.read? frame = some h) (hpool : (classify h settings).pool? = some pool)
    (hkept : (process settings frame m).verdict ≠ .drop) :
    let outcome := process settings frame m
    ((∃ slot b, (m.slots.get pool).UsableAt slot b) →
      outcome.verdict = .transmit ∧ ∃ slot b, (m.slots.get pool).UsableAt slot b ∧
        Redirected settings.checksumMode h b frame outcome.frame) ∧
    ((¬∃ slot b, (m.slots.get pool).UsableAt slot b) →
      outcome.verdict = .pass ∧ outcome.frame = frame ∧
        Tally.value outcome.state.counters .noBackend =
          Tally.value m.counters .noBackend + 1) := by
  intro outcome
  have hending : Ending settings frame m outcome := process_ending settings frame m
  change outcome.verdict ≠ .drop at hkept
  clear_value outcome
  cases hending with
  | unread hread' => exact absurd (hread.symm.trans hread') (by simp)
  | @unbalanced h' hread' hclass =>
    obtain rfl : h = h' := Option.some_inj.1 (hread.symm.trans hread')
    exact absurd (hpool.symm.trans hclass) (by simp)
  | denied => exact absurd rfl hkept
  | @noBackend h' pool' s hread' hhanded hnone =>
    obtain rfl : h = h' := Option.some_inj.1 (hread.symm.trans hread')
    obtain rfl : pool = pool' := Option.some_inj.1 (hpool.symm.trans hhanded.pool?_eq)
    -- counting and the rate check leave the maps alone that a backend is selected from
    rw [hhanded.follows.selectBackend_eq] at hnone
    refine ⟨fun husable => ?_, fun _ => ⟨rfl, rfl, ?_⟩⟩
    · obtain ⟨slot, b, -, hsome⟩ := selectBackend_of_usable hmode (hm pool) husable
      rw [hsome] at hnone
      exact absurd hnone (by simp)
    · rw [← hhanded.follows.noBackend_eq]
      exact Counters.value_add s.counters .noBackend .noBackend 1
  | @redirected h' pool' s b sent hread' hhanded hsome hsent =>
    obtain rfl : h = h' := Option.some_inj.1 (hread.symm.trans hread')
    obtain rfl : pool = pool' := Option.some_inj.1 (hpool.symm.trans hhanded.pool?_eq)
    rw [hhanded.follows.selectBackend_eq] at hsome
    refine ⟨fun husable => ⟨rfl, ?_⟩, fun hnone => ?_⟩
    · obtain ⟨slot, b', hb', hsome'⟩ := selectBackend_of_usable hmode (hm pool) husable
      obtain rfl : b' = b := Option.some_inj.1 (hsome'.symm.trans hsome)
      obtain ⟨sent', hsent', hred, -⟩ := redirect_octets hread settings.checksumMode b'
      obtain rfl : sent' = sent := (Prod.mk.inj (hsent'.symm.trans hsent)).2
      exact ⟨slot, b', hb', hred⟩
    · rw [selectBackend_of_no_usable hmode (hm pool) hnone] at hsome
      exact absurd hsome (by simp)
  | @abandoned h' pool' s b left hread' hhanded hsome hleft =>
    obtain ⟨sent, hsent, -⟩ := redirect_octets hread' settings.checksumMode b
    exact absurd (hsent.symm.trans hleft) (by simp)

/-! ### Every state of the balancer -/

/-- **Look-up tables always belong to their slots, and frames go to usable backends.**  From the
first accepted configuration on, whatever operations follow it and whatever the balancer held
before, a frame of a balanced class that is not dropped is sent to a usable backend of its pool if
there is one; otherwise it is passed as it came and counted. -/
theorem balancer_steers_to_usable (b : Balancer) {c : Config} (hc : c.isAccepted = true)
    (ops : List Operation) :
    let m := ((b.perform (.load c)).performAll ops).memory
    (∀ pool, m.maglev.get pool = buildTable (m.slots.get pool).toList) ∧
    ∀ (settings : Settings) (frame : Octets) (h : Header) (pool : Pool),
      settings.selectorMode = .maglev → Header.read? frame = some h →
      (classify h settings).pool? = some pool →
      (process settings frame m).verdict ≠ .drop →
      ((∃ slot b, (m.slots.get pool).UsableAt slot b) →
        (process settings frame m).verdict = .transmit ∧
          ∃ slot b, (m.slots.get pool).UsableAt slot b ∧
            Redirected settings.checksumMode h b frame (process settings frame m).frame) ∧
      ((¬∃ slot b, (m.slots.get pool).UsableAt slot b) →
        (process settings frame m).verdict = .pass ∧ (process settings frame m).frame = frame ∧
          Tally.value (process settings frame m).state.counters .noBackend =
            Tally.value m.counters .noBackend + 1) := by
  intro m
  have hm : m.IsCurrent := Balancer.isCurrent_performAll (b.isCurrent_load hc) ops
  exact ⟨hm, fun settings frame h pool hmode hread hpool hkept =>
    process_of_current hmode hm hread hpool hkept⟩

/-- One API backend, `10.0.0.7:8080`, and no other. -/
def apiConfig : Config where
  selection := { mode := .maglev }
  apiBackends := [{ address := 0x0a000007, port := 8080 }]

/-- A TCP segment to the API port. -/
def apiSegment : Octets :=
  [2, 0, 0, 0, 0, 0xbb, 2, 0, 0, 0, 0, 0xaa, 8, 0,
    0x45, 0, 0, 40, 0, 0, 0x40, 0, 64, 6, 0, 0, 203, 0, 113, 5, 198, 51, 100, 1,
    156, 64, 31, 144, 0, 0, 0, 1, 0, 0, 0, 0, 0x50, 2, 0x20, 0, 0, 0, 0, 0]

/-- The segment reaches the backend, also after an edit of a slot that no pool has. -/
theorem apiSegment_is_transmitted :
    let b : Balancer := {}
    let m := ((b.perform (.load apiConfig)).performAll [.edit .api 16 none]).memory
    apiConfig.isAccepted = true ∧
      (process apiConfig.settings apiSegment m).verdict = .transmit ∧
      (process apiConfig.settings apiSegment m).frame.load 30 4 = some #v[10, 0, 0, 7] := by
  intro b m
  have hc : apiConfig.isAccepted = true := by decide
  have hslots : m.slots.get .api =
      SlotTable.empty.set 0 { address := 0x0a000007, port := 8080, weight := 100, flags := 1 } := by
    change (Balancer.performAll _ [_]).memory.slots.get _ = _
    rw [Balancer.performAll, List.foldl_cons, List.foldl_nil, Balancer.perform_edit]
    exact b.slots_perform_load hc rfl
  have hkept : (process apiConfig.settings apiSegment m).verdict ≠ .drop :=
    (process_rates apiConfig.settings apiSegment m).2
  obtain ⟨-, hsteered⟩ := balancer_steers_to_usable b hc [.edit .api 16 none]
  have husable : (m.slots.get .api).UsableAt 0
      { address := 0x0a000007, port := 8080, weight := 100, flags := 1 } := by
    rw [hslots]
    exact ⟨rfl, by decide⟩
  obtain ⟨hsent, slot, backend, ⟨hslot, hactive⟩, hred⟩ :=
    (hsteered apiConfig.settings apiSegment ⟨0xcb007105, 0xc6336401, .tcp, 40000, 8080, 34⟩
      .api rfl rfl rfl hkept).1 ⟨0, _, husable⟩
  rw [hslots] at hslot
  refine ⟨hc, hsent, hred.address.trans ?_⟩
  rcases eq_or_ne slot 0 with rfl | hne
  · obtain rfl := Option.some_inj.1 hslot
    rfl
  · rw [Vector.getElem?_set_ne _ hne.symm, SlotTable.empty, Vector.getElem?_replicate] at hslot
    obtain rfl : Backend.empty = backend :=
      Option.some_inj.1 (Option.ite_none_right_eq_some.1 hslot).2
    exact absurd hactive (by decide)

end VoiceSteering
