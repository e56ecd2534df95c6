/-
# The worst case of a race

Cores that race for one record do worst when they hoard: one core reads the record and holds its write
back while the others use up what the record admits; then it writes, which gives back all but one of
the requests, and so on with that much less room.  Each schedule is two shorter ones with a write in
between, so the number of requests grows as binomial coefficients do, and reaches the bound of
`admitted_lt_choose`.

Hence the limit is kept up to one request for each core only if there is one core, or the limit is so
small that nothing can be given back.
-/
import VoiceSteering.Proofs.Rate.Racing

namespace VoiceSteering.Rate.Race

variable {cores : ℕ}

/-! ### Hoarding -/

/-- The turns of some cores while the record has room for a number of requests. -/
def hoard (now : UInt64) : List (Fin cores) → ℕ → List (Turn cores)
  | [], _ => []
  | _ :: _, 0 => []
  | c :: cs, room + 1 =>
    ⟨c, now⟩ :: hoard now cs (room + 1) ++ ⟨c, now⟩ :: hoard now (c :: cs) room
termination_by cs room => (cs.length, room)

lemma now_of_mem_hoard {now : UInt64} {cs : List (Fin cores)} {room : ℕ} {t : Turn cores}
    (ht : t ∈ hoard now cs room) : t.now = now := by
  induction cs, room using hoard.induct with
  | case1 | case2 =>
    rw [hoard] at ht
    exact absurd ht List.not_mem_nil
  | case3 c cs room ihOthers ihRest =>
    rw [hoard, List.cons_append, List.mem_cons, List.mem_append, List.mem_cons] at ht
    rcases ht with rfl | hothers | rfl | hrest
    · rfl
    · exact ihOthers hothers
    · rfl
    · exact ihRest hrest

section Run

variable {limit : Limit} {s : Race cores}

/-- A record with room admits a request within its window. -/
lemma exists_next_of_room {r : Record} {now : UInt64} {room : ℕ}
    (hwithin : now.toNat ≤ r.windowStart.toNat + limit.window.toNat)
    (hroom : limit.room r = room + 1) :
    ∃ r', r.allow? limit now = some r' ∧ r'.windowStart = r.windowStart ∧ limit.room r' = room := by
  have hopen : ¬limit.requests ≤ r.count := by
    rw [UInt64.not_le, UInt64.lt_iff_toNat_lt]
    rw [Limit.room] at hroom
    omega
  have hnext : r.allow? limit now = some { r with count := r.count + 1 } := by
    rw [Record.allow?_of_within hwithin, if_neg hopen]
  obtain ⟨hwindow, hless⟩ := room_of_allow? hwithin hnext
  exact ⟨_, hnext, hwindow, by omega⟩

/-- What idle cores that hoard admit, in the presence of other cores. -/
lemma run_hoard {now : UInt64} {cs : List (Fin cores)} {room : ℕ} (hnodup : cs.Nodup)
    (hidle : ∀ c ∈ cs, s.pending c = none)
    (hwithin : now.toNat ≤ s.record.windowStart.toNat + limit.window.toNat)
    (hroom : limit.room s.record = room) :
    (s.run limit (hoard now cs room)).pending = s.pending ∧
      (s.run limit (hoard now cs room)).admitted + 1 =
        s.admitted + (cs.length + room).choose cs.length := by
  induction cs, room using hoard.induct generalizing s with
  | case1 room =>
    rw [hoard, List.length_nil, Nat.choose_zero_right]
    exact ⟨rfl, rfl⟩
  | case2 c cs =>
    have hself : ((c :: cs).length + 0).choose (c :: cs).length = 1 := Nat.choose_self _
    rw [hoard, hself]
    exact ⟨rfl, rfl⟩
  | case3 c cs room ihOthers ihRest =>
    obtain ⟨hc, hnodup'⟩ := List.nodup_cons.1 hnodup
    obtain ⟨r, hnext, hwindow, hless⟩ := exists_next_of_room hwithin hroom
    have hcIdle : s.pending c = none := hidle c (List.mem_cons_self ..)
    -- the others use up the room while `c` holds its write
    have hothers : ∀ d ∈ cs, (s.hold c r).pending d = none := by
      intro d hd
      have hne : d ≠ c := fun heq => hc (heq ▸ hd)
      exact (Function.update_of_ne hne _ _).trans (hidle d (List.mem_cons_of_mem c hd))
    obtain ⟨hkept, hadmitted⟩ := ihOthers hnodup' hothers hwithin hroom
    -- then everything starts again with less room
    let used := (s.hold c r).run limit (hoard now cs (room + 1))
    let written : Race cores := ⟨r, s.pending, used.admitted + 1⟩
    have hwritten : s.run limit (⟨c, now⟩ :: hoard now cs (room + 1) ++ [⟨c, now⟩]) = written :=
      run_held_write hcIdle hnext hkept
    have hwithinRest : now.toNat ≤ written.record.windowStart.toNat + limit.window.toNat := by
      rw [← hwindow] at hwithin
      exact hwithin
    obtain ⟨hpendingRest, hadmittedRest⟩ := ihRest (s := written) hnodup hidle hwithinRest hless
    have hrun : s.run limit (hoard now (c :: cs) (room + 1)) =
        written.run limit (hoard now (c :: cs) room) := by
      rw [hoard, List.append_cons, run_append, hwritten]
    rw [hrun]
    refine ⟨hpendingRest, ?_⟩
    have hsplit : ((c :: cs).length + (room + 1)).choose (c :: cs).length =
        (cs.length + (room + 1)).choose cs.length +
          ((c :: cs).length + room).choose (c :: cs).length := by
      rw [List.length_cons, ← Nat.add_assoc, Nat.choose_succ_succ]
      congr 2
      omega
    have hcounted : used.admitted + 1 = s.admitted + (cs.length + (room + 1)).choose cs.length :=
      hadmitted
    rw [hadmittedRest, hsplit, ← Nat.add_assoc, ← hcounted]

end Run

/-- **The upper bound is reached.** -/
theorem exists_run_admitted (cores : ℕ) (limit : Limit) (r : Record) :
    ∃ turns : List (Turn cores),
      (∀ t ∈ turns, t.now.toNat ≤ r.windowStart.toNat + limit.window.toNat) ∧
      ((start r).run limit turns).admitted + 1 = (cores + limit.room r).choose cores := by
  let turns := hoard r.windowStart (List.finRange cores) (limit.room r)
  have hidle : ∀ c ∈ List.finRange cores, (start r : Race cores).pending c = none := fun _ _ => rfl
  have hopening : r.windowStart.toNat ≤ r.windowStart.toNat + limit.window.toNat :=
    Nat.le_add_right _ _
  have hadmitted : ((start r).run limit turns).admitted + 1 =
      0 + ((List.finRange cores).length + limit.room r).choose (List.finRange cores).length :=
    (run_hoard (List.nodup_finRange cores) hidle hopening rfl).2
  refine ⟨turns, fun t ht => ?_, ?_⟩
  · rw [now_of_mem_hoard ht]
    exact hopening
  · rw [hadmitted, List.length_finRange, Nat.zero_add]

/-! ### A whole window -/

/-- More than one core and more than one request to give back. -/
lemma add_lt_choose {n d : ℕ} (hn : 2 ≤ n) (hd : 2 ≤ d) : n + d + 1 < (n + d).choose n := by
  induction n, hn using Nat.le_induction with
  | base =>
    induction d, hd using Nat.le_induction with
    | base => decide
    | succ d hd ih =>
      have hsplit : (2 + d + 1).choose 2 = (2 + d) + (2 + d).choose 2 := by
        rw [Nat.choose_succ_succ' (2 + d) 1, Nat.choose_one_right]
      rw [← Nat.add_assoc, hsplit]
      omega
  | succ n hn ih =>
    have hpos : 0 < (n + d).choose (n + 1) := Nat.choose_pos (by omega)
    rw [Nat.add_right_comm n 1 d, Nat.choose_succ_succ']
    omega

/-- When the worst case of a window is within the limit and one more request for each core. -/
lemma choose_le_add_iff {n limit : ℕ} (hlimit : 1 ≤ limit) :
    (n + (limit - 1)).choose n ≤ limit + n ↔ n ≤ 1 ∨ limit ≤ 2 := by
  obtain ⟨d, rfl⟩ : ∃ d, limit = d + 1 := ⟨limit - 1, by omega⟩
  rw [Nat.add_sub_cancel]
  constructor
  · intro hle
    by_contra hmany
    have hlt : n + d + 1 < (n + d).choose n := add_lt_choose (by omega) (by omega)
    omega
  · rintro (hn | hd)
    · obtain rfl | rfl : n = 0 ∨ n = 1 := by omega
      · rw [Nat.choose_zero_right]
        omega
      · rw [Nat.choose_one_right]
        omega
    · obtain rfl | rfl : d = 0 ∨ d = 1 := by omega
      · rw [Nat.add_zero, Nat.choose_self]
        omega
      · rw [Nat.choose_symm_add, Nat.choose_one_right]
        omega

/-- **What cores that race for one record admit in a window.**  Together with the request that opens
the window they admit up to a binomial coefficient of requests, and in the worst case exactly as many.
So the limit is exceeded by at most one request for each core if and only if there is one core, or the
limit is at most two. -/
theorem worst_overshoot (cores : ℕ) (limit : Limit) (now : UInt64) :
    let within (turns : List (Turn cores)) : Prop :=
      ∀ t ∈ turns, t.now.toNat ≤ now.toNat + limit.window.toNat
    let total (turns : List (Turn cores)) : ℕ :=
      1 + ((start (.opened now)).run limit turns).admitted
    let worst : ℕ := (cores + (limit.requests.toNat - 1)).choose cores
    (∀ turns, within turns → total turns ≤ worst) ∧
    (∃ turns, within turns ∧ total turns = worst) ∧
    (1 ≤ limit.requests.toNat →
      ((∀ turns, within turns → total turns ≤ limit.requests.toNat + cores) ↔
        cores ≤ 1 ∨ limit.requests.toNat ≤ 2)) := by
  intro within total worst
  have hbound : ∀ turns, within turns → total turns ≤ worst := by
    intro turns hturns
    have hlt : ((start (.opened now)).run limit turns).admitted < worst :=
      admitted_lt_choose limit (.opened now) hturns
    show 1 + _ ≤ worst
    omega
  have hreached : ∃ turns, within turns ∧ total turns = worst := by
    obtain ⟨turns, hturns, hadmitted⟩ := exists_run_admitted cores limit (.opened now)
    exact ⟨turns, hturns, (Nat.add_comm 1 _).trans hadmitted⟩
  refine ⟨hbound, hreached, fun hlimit => ?_⟩
  rw [← choose_le_add_iff hlimit]
  constructor
  · intro hdocumented
    obtain ⟨turns, hturns, htotal⟩ := hreached
    exact htotal.symm.trans_le (hdocumented turns hturns)
  · intro hworst turns hturns
    exact (hbound turns hturns).trans hworst

/-- Two cores and three requests per window.  The first core reads twice and both times holds its
write back until the second one has used up the limit: six requests are admitted, one more than the
limit and one for each core. -/
theorem heldWrites_exceed_limit :
    let turns : List (Turn 2) := [0, 1, 1, 1, 1, 0, 0, 1, 1, 0].map fun core => ⟨core, 0⟩
    (∀ t ∈ turns, t.now.toNat ≤ (0 : UInt64).toNat + (10 : UInt64).toNat) ∧
      3 + 2 < 1 + ((start (.opened 0)).run ⟨3, 10⟩ turns).admitted := by
  decide

end VoiceSteering.Rate.Race
