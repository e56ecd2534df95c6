/-
# Cores that race for one record

A core reads the record of a source, decides on a request by what it has read, and writes the record
back; other cores may run in between.  A write that was decided on long ago takes the count back to
where it stood then, and what was admitted meanwhile is admitted once more.  So the overshoot is not
bounded by the number of cores: each core can hold back a write while the others use up the limit,
and do so again after every write.

The exact bound comes from the rooms of the cores.  The room of a core is the number of requests that
are still admitted by the record it is going to read or, if it has decided on a request, by the one it
has read.  Reading changes no room.  Writing lowers the room of the core that writes, and the other rooms
it changes end up below what that one was before: with every request that is admitted, the rooms
descend in the well-founded order of multisets.  There are only as many multisets of rooms as a binomial
coefficient says.
-/
import Mathlib.Data.Multiset.DershowitzManna
import Mathlib.Data.Sym.Card
import VoiceSteering.Proofs.Rate.Window

namespace VoiceSteering.Rate

/-! ### One shared record -/

/-- The turn of a core, at a reading of its clock. -/
structure Turn (cores : ℕ) where
  core : Fin cores
  now : UInt64

/-- The record of a source that several cores use. -/
structure Race (cores : ℕ) where
  record : Record
  /-- What a core has decided on and not written yet. -/
  pending : Fin cores → Option Record
  /-- How many requests were admitted; a request is admitted with the write that counts it. -/
  admitted : ℕ

/-- How many requests a record still admits in its window. -/
def Limit.room (limit : Limit) (r : Record) : ℕ := limit.requests.toNat - r.count.toNat

namespace Race

variable {cores : ℕ}

/-- No core has read the record yet. -/
def start (r : Record) : Race cores := ⟨r, fun _ => none, 0⟩

/-- A core has decided on a record that it will write. -/
def hold (s : Race cores) (c : Fin cores) (r : Record) : Race cores :=
  { s with pending := Function.update s.pending c (some r) }

/-- A core writes what it has decided on. -/
def write (s : Race cores) (c : Fin cores) (r : Record) : Race cores :=
  ⟨r, Function.update s.pending c none, s.admitted + 1⟩

section Definitions

variable (limit : Limit)

/-- A core writes what it has decided on, or else reads the record for its next request.  A request
that is denied comes with no write. -/
def turn (s : Race cores) (t : Turn cores) : Race cores :=
  match s.pending t.core with
  | some r => s.write t.core r
  | none =>
    match s.record.allow? limit t.now with
    | some r => s.hold t.core r
    | none => s

def run (s : Race cores) (turns : List (Turn cores)) : Race cores := turns.foldl (turn limit) s

/-- The room of a core. -/
def room (s : Race cores) (c : Fin cores) : ℕ :=
  match s.pending c with
  | some r => limit.room r + 1
  | none => limit.room s.record

end Definitions

variable {limit : Limit} {s : Race cores} {t : Turn cores} {r : Record}

lemma turn_of_pending (hpending : s.pending t.core = some r) :
    s.turn limit t = s.write t.core r := by
  rw [turn, hpending]

lemma turn_of_admitted (hidle : s.pending t.core = none)
    (hnext : s.record.allow? limit t.now = some r) : s.turn limit t = s.hold t.core r := by
  simp only [turn, hidle, hnext]

lemma turn_of_denied (hidle : s.pending t.core = none)
    (hnext : s.record.allow? limit t.now = none) : s.turn limit t = s := by
  simp only [turn, hidle, hnext]

lemma run_append (turns later : List (Turn cores)) :
    s.run limit (turns ++ later) = (s.run limit turns).run limit later :=
  List.foldl_append

lemma run_cons (t : Turn cores) (turns : List (Turn cores)) :
    s.run limit (t :: turns) = (s.turn limit t).run limit turns := rfl

/-- **A write that was held back undoes what was counted in between.**  Whatever turns other cores
take after a core has read, its write leaves the record that it decided on. -/
theorem run_held_write {turns : List (Turn cores)} (hidle : s.pending t.core = none)
    (hnext : s.record.allow? limit t.now = some r)
    (hkept : ((s.hold t.core r).run limit turns).pending = (s.hold t.core r).pending) :
    s.run limit (t :: turns ++ [t]) =
      ⟨r, s.pending, ((s.hold t.core r).run limit turns).admitted + 1⟩ := by
  have hheld : (s.hold t.core r).pending t.core = some r := Function.update_self ..
  have hrestored : Function.update (s.hold t.core r).pending t.core none = s.pending := by
    rw [hold, Function.update_idem, ← hidle, Function.update_eq_self]
  rw [List.cons_append, run_cons, turn_of_admitted hidle hnext, run_append, run_cons,
    turn_of_pending (by rw [hkept]; exact hheld), write, hkept, hrestored]
  rfl

/-- A core that no other core interrupts decides and writes as if it were the only one. -/
theorem run_uninterrupted (hidle : s.pending t.core = none) :
    match s.record.allow? limit t.now with
    | some r => s.run limit [t, t] = ⟨r, s.pending, s.admitted + 1⟩
    | none => s.run limit [t] = s := by
  cases hnext : s.record.allow? limit t.now with
  | none => exact turn_of_denied hidle hnext
  | some r =>
    have hnobody : ((s.hold t.core r).run limit []).pending = (s.hold t.core r).pending := rfl
    exact run_held_write hidle hnext hnobody

/-! ### Rooms -/

section Rooms

variable (limit) (s) (r) (c : Fin cores)

lemma room_hold_self : (s.hold c r).room limit c = limit.room r + 1 := by
  have hpending : (s.hold c r).pending c = some r := Function.update_self ..
  rw [room, hpending]

lemma room_hold_of_ne {d : Fin cores} (hne : d ≠ c) :
    (s.hold c r).room limit d = s.room limit d := by
  have hpending : (s.hold c r).pending d = s.pending d := Function.update_of_ne hne ..
  rw [room, hpending]
  rfl

lemma room_write_self : (s.write c r).room limit c = limit.room r := by
  have hpending : (s.write c r).pending c = none := Function.update_self ..
  rw [room, hpending]
  rfl

/-- All cores that are to read get the room of the record that is written. -/
lemma room_write (d : Fin cores) : (s.write c r).room limit d = s.room limit d ∨
    (s.write c r).room limit d = limit.room r := by
  rcases eq_or_ne d c with rfl | hne
  · exact .inr (room_write_self limit s r d)
  · have hpending : (s.write c r).pending d = s.pending d := Function.update_of_ne hne ..
    rw [room, room, hpending]
    cases s.pending d with
    | some r' => exact .inl rfl
    | none => exact .inr rfl

end Rooms

/-! ### Turns within a window -/

/-- An admission within the window takes one from the room. -/
lemma room_of_allow? {now : UInt64} {r' : Record}
    (hwithin : now.toNat ≤ r.windowStart.toNat + limit.window.toNat)
    (hnext : r.allow? limit now = some r') :
    r'.windowStart = r.windowStart ∧ limit.room r = limit.room r' + 1 := by
  rw [Record.allow?_of_within hwithin] at hnext
  split at hnext
  · exact absurd hnext (by simp)
  · next hfull =>
    obtain rfl := Option.some_inj.1 hnext
    have hcount : r.count < limit.requests := UInt64.not_le.1 hfull
    have hlt := UInt64.lt_iff_toNat_lt.1 hcount
    refine ⟨rfl, ?_⟩
    rw [Limit.room, Limit.room, Record.toNat_count_succ hcount]
    omega

/-- All records in use belong to the window that opened at a time. -/
structure InWindow (opened : UInt64) (s : Race cores) : Prop where
  record : s.record.windowStart = opened
  pending : ∀ c r, s.pending c = some r → r.windowStart = opened

namespace InWindow

variable {opened : UInt64} (h : s.InWindow opened)
  (hwithin : t.now.toNat ≤ opened.toNat + limit.window.toNat)

include h hwithin in
lemma room_of_next {r' : Record} (hnext : s.record.allow? limit t.now = some r') :
    r'.windowStart = opened ∧ limit.room s.record = limit.room r' + 1 := by
  rw [← h.record] at hwithin ⊢
  exact room_of_allow? hwithin hnext

include h in
lemma pending_update (c : Fin cores) {next : Option Record}
    (hnext : ∀ r, next = some r → r.windowStart = opened) :
    ∀ d r, Function.update s.pending c next d = some r → r.windowStart = opened :=
  (Function.forall_update_iff s.pending
    fun _ next => ∀ r, next = some r → r.windowStart = opened).2 ⟨hnext, fun d _ => h.pending d⟩

include h hwithin in
lemma turn : (s.turn limit t).InWindow opened := by
  cases hpending : s.pending t.core with
  | some r =>
    rw [turn_of_pending hpending]
    exact ⟨h.pending t.core r hpending, h.pending_update t.core (by simp)⟩
  | none =>
    cases hnext : s.record.allow? limit t.now with
    | none =>
      rw [turn_of_denied hpending hnext]
      exact h
    | some r =>
      rw [turn_of_admitted hpending hnext]
      refine ⟨h.record, h.pending_update t.core ?_⟩
      intro r' hr'
      obtain rfl := Option.some_inj.1 hr'
      exact (h.room_of_next hwithin hnext).1

include h hwithin in
/-- A core that reads changes no room. -/
lemma room_turn_of_idle (hidle : s.pending t.core = none) :
    (s.turn limit t).admitted = s.admitted ∧ (s.turn limit t).room limit = s.room limit := by
  cases hnext : s.record.allow? limit t.now with
  | none =>
    rw [turn_of_denied hidle hnext]
    exact ⟨rfl, rfl⟩
  | some r =>
    rw [turn_of_admitted hidle hnext]
    refine ⟨rfl, funext fun c => ?_⟩
    rcases eq_or_ne c t.core with rfl | hne
    · rw [room_hold_self, room, hidle]
      exact (h.room_of_next hwithin hnext).2.symm
    · exact room_hold_of_ne limit s r t.core hne

end InWindow

/-- Some room is lowered, and wherever else the rooms differ they end up below what it was. -/
def Lowered (before after : Fin cores → ℕ) : Prop :=
  ∃ c, after c < before c ∧ ∀ d, after d = before d ∨ after d < before c

/-- A core that writes gives its room, less the request in hand, to every core that is to read. -/
lemma lowered_turn_of_pending (limit : Limit) (hpending : s.pending t.core = some r) :
    (s.turn limit t).admitted = s.admitted + 1 ∧
      Lowered (s.room limit) ((s.turn limit t).room limit) := by
  have hroom : s.room limit t.core = limit.room r + 1 := by rw [room, hpending]
  rw [turn_of_pending hpending]
  refine ⟨rfl, t.core, ?_, fun c => ?_⟩
  · rw [room_write_self, hroom]
    exact Nat.lt_succ_self _
  · rw [hroom]
    exact (room_write limit s r t.core c).imp_right fun hwritten => Nat.lt_succ_of_le hwritten.le

/-! ### Descending multisets -/

/-- The rooms of all cores, whichever core has which. -/
def allRooms (rooms : Fin cores → ℕ) : Multiset ℕ := Finset.univ.val.map rooms

lemma Lowered.isDershowitzMannaLT {before after : Fin cores → ℕ} (h : Lowered before after) :
    (allRooms after).IsDershowitzMannaLT (allRooms before) := by
  obtain ⟨c, hc, hall⟩ := h
  have hsplit : ∀ rooms : Fin cores → ℕ, allRooms rooms =
      (Finset.univ.val.filter fun d => after d = before d).map rooms +
        (Finset.univ.val.filter fun d => ¬after d = before d).map rooms := by
    intro rooms
    rw [← Multiset.map_add, Multiset.filter_add_not, allRooms]
  have hmem : before c ∈ (Finset.univ.val.filter fun d => ¬after d = before d).map before :=
    Multiset.mem_map_of_mem before (Multiset.mem_filter.2 ⟨Finset.mem_univ_val c, hc.ne⟩)
  have hkept : (Finset.univ.val.filter fun d => after d = before d).map after =
      (Finset.univ.val.filter fun d => after d = before d).map before :=
    Multiset.map_congr rfl fun d hd => (Multiset.mem_filter.1 hd).2
  refine ⟨_, _, _, ?_, (hsplit after).trans (by rw [hkept]), hsplit before, ?_⟩
  · rintro hempty
    exact Multiset.notMem_zero _ (hempty ▸ hmem)
  · intro n hn
    obtain ⟨d, hd, rfl⟩ := Multiset.mem_map.1 hn
    exact ⟨before c, hmem, (hall d).resolve_left (Multiset.mem_filter.1 hd).2⟩

/-- The multisets of as many rooms as there are cores, none above `most`. -/
def boundedRooms (cores most : ℕ) : Finset (Multiset ℕ) :=
  Finset.univ.image fun rooms : Sym (Fin (most + 1)) cores => rooms.1.map Fin.val

lemma card_boundedRooms_le (cores most : ℕ) :
    (boundedRooms cores most).card ≤ (cores + most).choose cores := by
  have hcard : Fintype.card (Sym (Fin (most + 1)) cores) = (cores + most).choose cores := by
    rw [Sym.card_sym_eq_choose, Fintype.card_fin]
    congr 1
    omega
  rw [← hcard]
  exact Finset.card_image_le

lemma allRooms_mem_boundedRooms {most : ℕ} {rooms : Fin cores → ℕ} (hmost : ∀ c, rooms c ≤ most) :
    allRooms rooms ∈ boundedRooms cores most := by
  let bounded (c : Fin cores) : Fin (most + 1) := ⟨rooms c, Nat.lt_succ_of_le (hmost c)⟩
  have hcard : (Finset.univ.val.map bounded).card = cores := by
    rw [Multiset.card_map, Finset.card_val, Finset.card_univ, Fintype.card_fin]
  refine Finset.mem_image.2 ⟨⟨Finset.univ.val.map bounded, hcard⟩, Finset.mem_univ _, ?_⟩
  show (Finset.univ.val.map bounded).map Fin.val = allRooms rooms
  rw [Multiset.map_map, allRooms]
  rfl

section Below

open scoped Classical in
/-- The bounded multisets below that of some rooms. -/
noncomputable def below (most : ℕ) (rooms : Fin cores → ℕ) : Finset (Multiset ℕ) :=
  (boundedRooms cores most).filter fun other => other.IsDershowitzMannaLT (allRooms rooms)

variable {most : ℕ} {before after : Fin cores → ℕ}

lemma mem_below {other : Multiset ℕ} : other ∈ below most before ↔
    other ∈ boundedRooms cores most ∧ other.IsDershowitzMannaLT (allRooms before) := by
  classical
  rw [below, Finset.mem_filter]

lemma allRooms_notMem_below : allRooms before ∉ below most before := fun hmem =>
  Multiset.wellFounded_isDershowitzMannaLT.irrefl.irrefl _ (mem_below.1 hmem).2

lemma Lowered.le (h : Lowered before after) (hmost : ∀ c, before c ≤ most) (c : Fin cores) :
    after c ≤ most := by
  obtain ⟨d, -, hall⟩ := h
  rcases hall c with heq | hlt
  · rw [heq]
    exact hmost c
  · exact hlt.le.trans (hmost d)

lemma Lowered.card_below_lt (h : Lowered before after) (hmost : ∀ c, before c ≤ most) :
    (below most after).card < (below most before).card := by
  refine Finset.card_lt_card ((Finset.ssubset_iff_of_subset ?_).2 ?_)
  · intro other hother
    rw [mem_below] at hother ⊢
    exact ⟨hother.1, hother.2.trans h.isDershowitzMannaLT⟩
  · refine ⟨allRooms after, ?_, allRooms_notMem_below⟩
    exact mem_below.2 ⟨allRooms_mem_boundedRooms (h.le hmost), h.isDershowitzMannaLT⟩

lemma card_below_lt_choose (hmost : ∀ c, before c ≤ most) :
    (below most before).card < (cores + most).choose cores := by
  refine (Finset.card_lt_card ?_).trans_le (card_boundedRooms_le cores most)
  refine (Finset.ssubset_iff_of_subset fun other hother => (mem_below.1 hother).1).2 ?_
  exact ⟨allRooms before, allRooms_mem_boundedRooms hmost, allRooms_notMem_below⟩

end Below

/-! ### The bound -/

/-- Every admission takes one of the multisets that are still below. -/
lemma InWindow.admitted_run_le {opened : UInt64} {most : ℕ} {turns : List (Turn cores)}
    (h : s.InWindow opened) (hmost : ∀ c, s.room limit c ≤ most)
    (hwithin : ∀ t ∈ turns, t.now.toNat ≤ opened.toNat + limit.window.toNat) :
    (s.run limit turns).admitted ≤ s.admitted + (below most (s.room limit)).card := by
  induction turns generalizing s with
  | nil => exact Nat.le_add_right _ _
  | cons t turns ih =>
    have hnow := hwithin t (List.mem_cons_self ..)
    have hlater : ∀ t' ∈ turns, t'.now.toNat ≤ opened.toNat + limit.window.toNat :=
      fun t' ht' => hwithin t' (List.mem_cons_of_mem t ht')
    rw [run_cons]
    cases hpending : s.pending t.core with
    | none =>
      obtain ⟨hadmitted, hroom⟩ := h.room_turn_of_idle hnow hpending
      have hrest := ih (h.turn hnow) (by rw [hroom]; exact hmost) hlater
      rw [hadmitted, hroom] at hrest
      exact hrest
    | some r =>
      obtain ⟨hadmitted, hlowered⟩ := lowered_turn_of_pending limit hpending
      have hrest := ih (h.turn hnow) (hlowered.le hmost) hlater
      have hbelow := hlowered.card_below_lt hmost
      omega

/-- **An upper bound on what racing cores admit in a window.** -/
theorem admitted_lt_choose {turns : List (Turn cores)} (limit : Limit) (r : Record)
    (hwithin : ∀ t ∈ turns, t.now.toNat ≤ r.windowStart.toNat + limit.window.toNat) :
    ((start r).run limit turns).admitted < (cores + limit.room r).choose cores := by
  have hwindow : (start r : Race cores).InWindow r.windowStart := ⟨rfl, fun _ _ h => nomatch h⟩
  have hmost : ∀ c, (start r : Race cores).room limit c ≤ limit.room r := fun _ => Nat.le_refl _
  have hadmitted := hwindow.admitted_run_le hmost hwithin
  have hbelow := card_below_lt_choose hmost
  exact (hadmitted.trans_eq (Nat.zero_add _)).trans_lt hbelow

end Race

end VoiceSteering.Rate
