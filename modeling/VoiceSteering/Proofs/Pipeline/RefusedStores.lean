/-
# Redirections that are not completed

A frame may refuse some of the stores that point it at its backend.  The pipeline tries all of them
all the same, and passes the frame on if one was refused.  Nothing is taken back, so what the network
stack receives is the frame with the stores that were honoured: it may carry new link-layer addresses
and its old destination.

`Attempted` names the patches that a redirection tries to store, and `process_of_attempted` says what
becomes of the frame then.  The patches do not overlap, so the frame is as it came exactly if each
honoured one stores what was there already.
-/
import VoiceSteering.Proofs.Pipeline.Affinity

namespace VoiceSteering

open VoiceSteering.Frame (Access Header Octets Guarded)

/-! ### Patches that change nothing -/

section Patched

variable {ps : List Patch} {frame : Octets}

lemma Frame.Octets.overwrite_eq_self {offset n : ℕ} {v : Vector UInt8 n}
    (hload : frame.load offset n = some v) : frame.overwrite offset v = frame := by
  apply List.ext_getElem?
  intro i
  rw [Octets.getElem?_overwrite]
  split
  · next hi =>
    have hthere := Octets.getElem?_of_load hload (i := i - offset) (by omega)
    rw [show offset + (i - offset) = i by omega] at hthere
    rw [hthere, Option.map_some]
  · rfl

/-- Patches that have no octet in common change nothing exactly if each of them stores what is there
already. -/
lemma patched_eq_self_iff (hfits : ∀ p ∈ ps, p.Fits frame) (hapart : ps.Pairwise Patch.Apart) :
    patched ps frame = frame ↔ ∀ p ∈ ps, frame.load p.offset p.size = some p.octets := by
  constructor
  · intro hsame p hp
    have hload := load_patched hfits hapart hp
    rwa [hsame] at hload
  · intro hthere
    clear hfits hapart
    induction ps with
    | nil => rfl
    | cons p ps ih =>
      rw [patched, Octets.overwrite_eq_self (hthere p List.mem_cons_self)]
      exact ih fun q hq => hthere q (List.mem_cons_of_mem p hq)

end Patched

/-! ### Frames that refuse stores -/

/-- Whether a frame takes a patch that lies inside it. -/
def Frame.Guarded.honours {φ : Type} (g : Guarded φ) (p : Patch) : Bool := !g.refusesStore p.offset

/-- The patches that are honoured are stored, whatever was refused before them. -/
lemma applyPatches_refusing {g : Guarded Octets} {ps : List Patch}
    (hfits : ∀ p ∈ ps, p.Fits g.frame) :
    applyPatches ps g =
      (ps.all g.honours, { g with frame := patched (ps.filter g.honours) g.frame }) := by
  induction ps generalizing g with
  | nil => rfl
  | cons p ps ih =>
    have hrest : ∀ q ∈ ps, q.Fits g.frame := fun q hq => hfits q (List.mem_cons_of_mem p hq)
    rcases hrefused : g.refusesStore p.offset with _ | _
    · have hhonours : g.honours p = true := by rw [Guarded.honours, hrefused]; rfl
      have hinner : Access.store g.frame p.offset p.octets =
          some (g.frame.overwrite p.offset p.octets) :=
        Octets.store_eq_some p.octets (hfits p List.mem_cons_self)
      have hstore : Access.store g p.offset p.octets =
          some { g with frame := g.frame.overwrite p.offset p.octets } := by
        simp only [Access.store, hrefused, Bool.false_eq_true, if_false]
        exact congrArg (Option.map _) hinner
      simp only [applyPatches, hstore, List.all_cons, List.filter_cons, hhonours, Bool.true_and,
        if_true, patched]
      refine ih (g := { g with frame := g.frame.overwrite p.offset p.octets }) fun q hq => ?_
      simpa only [Patch.Fits, Octets.length_overwrite] using hrest q hq
    · have hhonours : g.honours p = false := by rw [Guarded.honours, hrefused]; rfl
      have hstore : Access.store g p.offset p.octets = none := by
        simp only [Access.store, hrefused, if_true]
      simp only [applyPatches, hstore, List.all_cons, List.filter_cons, hhonours, Bool.false_and,
        Bool.false_eq_true, if_false, ih hrest]

/-! ### What becomes of the frame -/

section Attempted

variable {σ : Type} [Datapath σ] {settings : Settings} {state : σ}

/-- The patches that are to point a frame at the backend selected for it. -/
def Attempted {φ : Type} [Access φ] (settings : Settings) (frame : φ) (state : σ)
    (ps : List Patch) : Prop :=
  ∃ h pool s b, Header.read? frame = some h ∧ Handed settings h (counted frame state) pool s ∧
    selectBackend settings pool h s = some b ∧
    redirection settings.checksumMode frame h b = some ps

lemma process_of_handed {φ : Type} [Access φ] {frame : φ} {h : Header} {pool : Pool} {s : σ}
    (hread : Header.read? frame = some h)
    (hhanded : Handed settings h (counted frame state) pool s) :
    process settings frame state = balance settings pool h frame s := by
  have hprocess : process settings frame state = steer settings h frame (counted frame state) := by
    simp only [process, hread]
    rfl
  rw [hprocess]
  cases hhanded with
  | signaling hclass hadmitted =>
    simp only [admission] at hadmitted
    simp only [steer, hclass, hadmitted]
  | api hclass => simp only [steer, hclass]

/-- A redirection that is not even attempted leaves the frame alone. -/
lemma frame_process_of_not_attempted {φ : Type} [Access φ] {frame : φ}
    (hnone : ∀ ps, ¬Attempted settings frame state ps) :
    (process settings frame state).frame = frame := by
  have hending := process_ending settings frame state
  generalize process settings frame state = outcome at hending
  cases hending with
  | unread | unbalanced | denied | noBackend => rfl
  | @redirected h pool s b left hread hhanded hsome hleft
  | @abandoned h pool s b left hread hhanded hsome hleft =>
    cases hps : redirection settings.checksumMode frame h b with
    | none =>
      rw [redirect, hps] at hleft
      exact (Prod.mk.inj hleft).2.symm
    | some ps => exact absurd ⟨h, pool, s, b, hread, hhanded, hsome, hps⟩ (hnone ps)

variable {g : Guarded Octets} {ps : List Patch}

lemma Attempted.fits_apart (hattempted : Attempted settings g state ps) :
    (∀ p ∈ ps, p.Fits g.frame) ∧ ps.Pairwise Patch.Apart := by
  obtain ⟨h, pool, s, b, hread, -, -, hps⟩ := hattempted
  have hinner := Guarded.read?_eq_some hread
  obtain ⟨plan, hplan⟩ := exists_plan hinner settings.checksumMode b
  obtain rfl : plan.patches = ps := Option.some_inj.1 (hplan.symm.trans (redirection_guarded hps))
  exact ⟨plan.fits hinner, plan.apart hinner⟩

/-- A frame whose redirection is attempted carries the patches that it honours, and it is sent on if
these are all. -/
lemma process_of_attempted (hattempted : Attempted settings g state ps) :
    (process settings g state).frame =
        { g with frame := patched (ps.filter g.honours) g.frame } ∧
      (process settings g state).verdict = if ps.all g.honours then .transmit else .pass := by
  have happly := applyPatches_refusing hattempted.fits_apart.1
  obtain ⟨h, pool, s, b, hread, hhanded, hsome, hps⟩ := hattempted
  rw [process_of_handed hread hhanded]
  have hredirect : redirect settings.checksumMode g h b =
      (ps.all g.honours, { g with frame := patched (ps.filter g.honours) g.frame }) := by
    rw [redirect, hps]
    exact happly
  rcases hall : ps.all g.honours with _ | _
  · simp only [balance, hsome, hredirect, hall, Bool.false_eq_true, if_false, and_self]
  · simp only [balance, hsome, hredirect, hall, if_true, and_self]

/-- An attempted redirection leaves the frame as it came exactly if each patch that is honoured
stores what was there already. -/
lemma Attempted.frame_process_eq_iff (hattempted : Attempted settings g state ps) :
    (process settings g state).frame.frame = g.frame ↔
      ∀ p ∈ ps, g.refusesStore p.offset = false →
        g.frame.load p.offset p.size = some p.octets := by
  obtain ⟨hfits, hapart⟩ := hattempted.fits_apart
  have hmem : ∀ p, p ∈ ps.filter g.honours ↔ p ∈ ps ∧ g.refusesStore p.offset = false := by
    intro p
    rw [List.mem_filter, Guarded.honours, Bool.not_eq_true']
  rw [(process_of_attempted hattempted).1,
    patched_eq_self_iff (fun p hp => hfits p ((hmem p).1 hp).1) (hapart.sublist List.filter_sublist)]
  simp only [hmem, and_imp]

end Attempted

/-- **A frame that is passed may carry half of a redirection.**  The frame may refuse any loads and any
stores.  If no redirection is attempted it is passed as it came.  If one is, then at least one patch
is refused, the frame carries all the others, and it is as it came exactly if each of these stores
what was there already. -/
theorem passed_untouched_iff {σ : Type} [Datapath σ] (settings : Settings) (g : Guarded Octets)
    (state : σ) (hpass : (process settings g state).verdict = .pass) :
    let passed := (process settings g state).frame.frame
    (∀ ps, Attempted settings g state ps →
        passed = patched (ps.filter g.honours) g.frame ∧
          ∃ p ∈ ps, g.refusesStore p.offset = true) ∧
      (passed = g.frame ↔ ∀ ps, Attempted settings g state ps →
        ∀ p ∈ ps, g.refusesStore p.offset = false →
          g.frame.load p.offset p.size = some p.octets) := by
  intro passed
  refine ⟨fun ps hattempted => ?_, fun hkept ps hattempted => ?_, fun hthere => ?_⟩
  · obtain ⟨hframe, hverdict⟩ := process_of_attempted hattempted
    refine ⟨congrArg Guarded.frame hframe, ?_⟩
    by_contra hhonoured
    have hall : ps.all g.honours = true := by
      refine List.all_eq_true.2 fun p hp => ?_
      rw [Guarded.honours, Bool.not_eq_true']
      exact Bool.eq_false_iff.2 fun hrefused => hhonoured ⟨p, hp, hrefused⟩
    rw [if_pos hall] at hverdict
    exact absurd (hpass.symm.trans hverdict) (by decide)
  · exact hattempted.frame_process_eq_iff.1 hkept
  · by_cases hnone : ∀ ps, ¬Attempted settings g state ps
    · exact congrArg Guarded.frame (frame_process_of_not_attempted hnone)
    · obtain ⟨ps, hattempted⟩ := not_forall_not.1 hnone
      exact hattempted.frame_process_eq_iff.2 (hthere ps hattempted)

/-- A datagram that somebody sent to their own link-layer address, with a zero IPv4 checksum. -/
def loopedDatagram : Octets :=
  [2, 0, 0, 0, 0, 0xaa, 2, 0, 0, 0, 0, 0xaa, 8, 0,
    0x45, 0, 0, 28, 0, 0, 0x40, 0, 64, 17, 0, 0, 203, 0, 113, 5, 198, 51, 100, 1,
    156, 64, 19, 196, 0, 8, 0, 0]

/-- The destination address is refused, and all that is stored is there already. -/
theorem loopedDatagram_untouched :
    let g : Guarded Octets := ⟨loopedDatagram, fun _ => false, fun offset => offset = 30⟩
    let slots : SlotTable := SlotTable.empty.setIfInBounds 4 { address := 0x0a000004, flags := 1 }
    let m : Memory := { slots := ⟨slots, SlotTable.empty⟩ }
    (process {} g m).verdict = .pass ∧ (process {} g m).frame.frame = loopedDatagram ∧
      ∃ ps, Attempted {} g m ps ∧ (∃ p ∈ ps, g.refusesStore p.offset = true) ∧
        ∀ p ∈ ps, g.refusesStore p.offset = false →
          loopedDatagram.load p.offset p.size = some p.octets := by
  intro g slots m
  have hpass : (process {} g m).verdict = .pass := by decide
  have hkept : (process {} g m).frame.frame = loopedDatagram := by decide
  have hattempted : ∃ ps, Attempted {} g m ps :=
    ⟨_, ⟨0xcb007105, 0xc6336401, .udp, 40000, 5060, 34⟩, .signaling,
      (admission {} 0xcb007105 (counted g m)).2, { address := 0x0a000004, flags := 1 }, by decide,
      .signaling rfl (Prod.ext (by decide) rfl), by decide, rfl⟩
  obtain ⟨ps, hps⟩ := hattempted
  obtain ⟨hcarries, hiff⟩ := passed_untouched_iff {} g m hpass
  exact ⟨hpass, hkept, ps, hps, (hcarries ps hps).2, hiff.1 hkept ps hps⟩

/-- When only the destination address is refused, the frame is passed with its sender's link-layer
address as its destination. -/
theorem refusedAddress_passes_other_frame :
    let g : Guarded Octets := ⟨callDatagram, fun _ => false, fun offset => offset = 30⟩
    let slots : SlotTable := SlotTable.empty.setIfInBounds 4 { address := 0x0a000004, flags := 1 }
    let m : Memory := { slots := ⟨slots, SlotTable.empty⟩ }
    (process {} g m).verdict = .pass ∧ (process {} g m).frame.frame ≠ callDatagram ∧
      (process {} g m).frame.frame.load 0 6 = callDatagram.load 6 6 ∧
      (process {} g m).frame.frame.load 30 4 = callDatagram.load 30 4 := by
  decide

end VoiceSteering
