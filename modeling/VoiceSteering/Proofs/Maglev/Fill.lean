/-
# Filling a table

A fill is followed turn by turn.  After `k` turns `Fill.Progress` holds: as many entries are taken,
each of them names a claimant, and no claimant has a free preference before its cursor.  Every turn
therefore finds an entry to claim as long as fewer than `maglevSize` turns have been taken, and at
the end no entry is left.
-/
import Mathlib.Tactic.Common
import VoiceSteering.Proofs.Maglev.Preference

namespace VoiceSteering.Maglev

/-! ### Single claims -/

/-- Whether an entry has not been claimed. -/
def Fill.isFree (fill : Fill) (entry : ℕ) : Bool := fill.table[entry]? == some maglevEmpty

/-- The claimant `c` at position `i` claims its `j`-th preference. -/
def Fill.claim (fill : Fill) (i : ℕ) (c : Claimant) (j : ℕ) : Fill where
  table := fill.table.setIfInBounds (c.preference j) (UInt32.ofNat c.slot)
  claimants := fill.claimants.setIfInBounds i { c with next := j + 1 }

/-- The claimant at position `i` finds its `j`-th preference free, and none before. -/
structure Fill.FirstFree (fill : Fill) (i : ℕ) (c : Claimant) (j : ℕ) : Prop where
  claimant : fill.claimants[i]? = some c
  next_le : c.next ≤ j
  lt_size : j < maglevSize
  free : fill.isFree (c.preference j) = true
  taken : ∀ i < j, fill.isFree (c.preference i) = false

variable {start : List Claimant} {k : ℕ} {fill : Fill}

lemma Fill.after_succ (fill : Fill) (turns : ℕ) :
    fill.after (turns + 1) = (fill.after turns).turn turns := by
  rw [Fill.after, Fill.after, List.range_succ, List.foldl_append]
  rfl

lemma Fill.isFree_iff {entry : ℕ} :
    fill.isFree entry = true ↔ fill.table[entry]? = some maglevEmpty := by
  rw [Fill.isFree, beq_iff_eq]

lemma Fill.table_claim_self (fill : Fill) (i : ℕ) (c : Claimant) (j : ℕ) :
    (fill.claim i c j).table[c.preference j]? = some (UInt32.ofNat c.slot) :=
  Vector.getElem?_setIfInBounds_self_of_lt (c.preference_lt j)

lemma Fill.table_claim_of_ne {i j entry : ℕ} {c : Claimant} (hne : entry ≠ c.preference j) :
    (fill.claim i c j).table[entry]? = fill.table[entry]? :=
  Vector.getElem?_setIfInBounds_ne hne.symm

lemma Fill.isFree_claim {i j : ℕ} {c : Claimant} (hc : c.Sound) (entry : ℕ) :
    (fill.claim i c j).isFree entry =
      (fill.isFree entry && decide (entry ≠ c.preference j)) := by
  rcases eq_or_ne entry (c.preference j) with rfl | hne
  · have hslot := hc.slot_ne
    simp [Fill.isFree, Fill.table_claim_self, hslot]
  · simp [Fill.isFree, Fill.table_claim_of_ne hne, hne]

/-- Moving a cursor changes nothing else of the claimants. -/
lemma map_restart_setIfInBounds {claimants : Array Claimant} {i : ℕ} {c : Claimant}
    (hc : claimants[i]? = some c) (next : ℕ) :
    (claimants.setIfInBounds i { c with next := next }).toList.map Claimant.restart =
      claimants.toList.map Claimant.restart := by
  obtain ⟨hi, hclaimant⟩ := Array.getElem?_eq_some_iff.1 hc
  have hlt : i < (claimants.toList.map Claimant.restart).length := by simpa using hi
  have hget : Claimant.restart { c with next := next } =
      (claimants.toList.map Claimant.restart)[i] := by
    rw [List.getElem_map, Array.getElem_toList, hclaimant]
    rfl
  rw [Array.toList_setIfInBounds, List.map_set, hget, List.set_getElem_self]

/-- A claim takes one free entry. -/
lemma Fill.count_claim {i j : ℕ} {c : Claimant} (hc : c.Sound)
    (hfree : fill.isFree (c.preference j) = true) :
    (fill.claim i c j).table.toList.count maglevEmpty + 1 =
      fill.table.toList.count maglevEmpty := by
  have hlt : c.preference j < fill.table.toList.length := by
    rw [Vector.length_toList]
    exact c.preference_lt j
  have hempty : fill.table.toList[c.preference j] = maglevEmpty := by
    have hentry := Fill.isFree_iff.1 hfree
    rw [← Vector.getElem?_toList, List.getElem?_eq_getElem hlt] at hentry
    exact Option.some_inj.1 hentry
  have hpos : 0 < fill.table.toList.count maglevEmpty := by
    rw [← hempty]
    exact List.count_pos_iff.2 (List.getElem_mem hlt)
  rw [Fill.claim, Vector.toList_setIfInBounds, List.count_set hlt, hempty, beq_self_eq_true,
    if_pos rfl, if_neg (by simpa using hc.slot_ne)]
  omega

/-! ### The state of a fill after some turns -/

/-- What is known of a fill after `k` turns. -/
structure Fill.Progress (start : List Claimant) (k : ℕ) (fill : Fill) : Prop where
  /-- Only the cursors have moved. -/
  claimants_eq : fill.claimants.toList.map Claimant.restart = start
  next_le : ∀ c ∈ fill.claimants, c.next ≤ maglevSize
  /-- Before a cursor everything is taken. -/
  taken : ∀ c ∈ fill.claimants, ∀ j < c.next, fill.isFree (c.preference j) = false
  /-- What is taken names a claimant. -/
  named : ∀ entry < maglevSize, fill.isFree entry = false →
    ∃ c ∈ start, fill.table[entry]? = some (UInt32.ofNat c.slot)
  free_count : fill.table.toList.count maglevEmpty + k = maglevSize

namespace Fill.Progress

lemma size_eq (hfill : Progress start k fill) : fill.claimants.size = start.length := by
  rw [← hfill.claimants_eq, List.length_map, Array.length_toList]

/-- The claimant whose turn it is, up to its cursor. -/
lemma claimant_restart (hfill : Progress start k fill) {i : ℕ} {c : Claimant}
    (hc : fill.claimants[i]? = some c) : start[i]? = some c.restart := by
  rw [← hfill.claimants_eq, List.getElem?_map, Array.getElem?_toList, hc]
  rfl

/-- A claimant of the fill is one of those that started it, but for its cursor. -/
lemma restart_mem (hfill : Progress start k fill) {c : Claimant} (hc : c ∈ fill.claimants) :
    c.restart ∈ start := by
  rw [← hfill.claimants_eq]
  exact List.mem_map_of_mem (Array.mem_toList_iff.2 hc)

lemma sound (hfill : Progress start k fill) (hstart : ∀ c ∈ start, c.Sound) {c : Claimant}
    (hc : c ∈ fill.claimants) : c.Sound := by
  obtain ⟨hpos, hlt, hslot⟩ := hstart _ (hfill.restart_mem hc)
  exact ⟨hpos, hlt, hslot⟩

lemma exists_isFree (hfill : Progress start k fill) (hk : k < maglevSize) :
    ∃ entry < maglevSize, fill.isFree entry = true := by
  have hcount := hfill.free_count
  have hmem : maglevEmpty ∈ fill.table.toList := List.count_pos_iff.1 (by omega)
  obtain ⟨entry, hentry, hempty⟩ := List.getElem_of_mem hmem
  rw [Vector.length_toList] at hentry
  refine ⟨entry, hentry, Fill.isFree_iff.2 ?_⟩
  rw [← hempty]
  simp

/-- In every turn but those of a full table a claimant finds an entry. -/
lemma exists_firstFree (hfill : Progress start k fill) (hstart : ∀ c ∈ start, c.Sound)
    (hne : start ≠ []) (hk : k < maglevSize) :
    ∃ c j, fill.FirstFree (k % start.length) c j ∧
      fill.turn k = fill.claim (k % start.length) c j := by
  have hlength : 0 < start.length := List.length_pos_iff.2 hne
  have hi : k % start.length < fill.claimants.size := by
    rw [hfill.size_eq]
    exact Nat.mod_lt _ hlength
  have hclaimant := Array.getElem?_eq_getElem hi
  have hmem : fill.claimants[k % start.length] ∈ fill.claimants := Array.getElem_mem hi
  obtain ⟨j, hnext, hj, hfree, htaken, hseek⟩ :=
    exists_seek_eq (hfill.sound hstart hmem) (hfill.taken _ hmem) (hfill.exists_isFree hk)
  refine ⟨_, j, ⟨hclaimant, hnext, hj, hfree, htaken⟩, ?_⟩
  have hsearch : seek (fun e => fill.table[e]? == some maglevEmpty) maglevSize
      fill.claimants[k % start.length] = _ := hseek
  simp only [Fill.turn, hfill.size_eq, hclaimant, hsearch]
  rfl

/-- A claim is a step forward. -/
lemma claim {i j : ℕ} {c : Claimant} (hfill : Progress start k fill)
    (hstart : ∀ c ∈ start, c.Sound) (hfirst : fill.FirstFree i c j) :
    Progress start (k + 1) (fill.claim i c j) := by
  have hmem : c ∈ fill.claimants := Array.mem_of_getElem? hfirst.claimant
  have hc : c.Sound := hfill.sound hstart hmem
  have hcases : ∀ c' ∈ (fill.claim i c j).claimants,
      c' ∈ fill.claimants ∨ c' = { c with next := j + 1 } :=
    fun c' hc' => Array.mem_or_eq_of_mem_setIfInBounds hc'
  refine ⟨?_, fun c' hc' => ?_, fun c' hc' i' hi' => ?_, fun entry hentry htaken => ?_, ?_⟩
  · exact (map_restart_setIfInBounds hfirst.claimant (j + 1)).trans hfill.claimants_eq
  · rcases hcases c' hc' with hold | rfl
    · exact hfill.next_le c' hold
    · exact hfirst.lt_size
  · rw [Fill.isFree_claim hc, Bool.and_eq_false_iff]
    rcases hcases c' hc' with hold | rfl
    · exact .inl (hfill.taken c' hold i' hi')
    · -- the cursor moves past the claimed entry, and everything before that was taken
      rcases Nat.lt_succ_iff_lt_or_eq.1 hi' with hlt | rfl
      · exact .inl (hfirst.taken i' hlt)
      · exact .inr (decide_eq_false fun hne => hne rfl)
  · rcases eq_or_ne entry (c.preference j) with rfl | hne
    · exact ⟨c.restart, hfill.restart_mem hmem, Fill.table_claim_self fill i c j⟩
    · rw [Fill.isFree_claim hc, decide_eq_true hne, Bool.and_true] at htaken
      obtain ⟨c', hc', hname⟩ := hfill.named entry hentry htaken
      exact ⟨c', hc', (Fill.table_claim_of_ne hne).trans hname⟩
  · rw [Nat.add_comm k, ← Nat.add_assoc, Fill.count_claim hc hfirst.free, hfill.free_count]

/-! ### Whole fills -/

lemma zero (hstart : ∀ c ∈ start, c.restart = c) :
    Progress start 0 ⟨Table.blank, start.toArray⟩ := by
  have hnext : ∀ c ∈ start, c.next = 0 := by
    intro c hc
    rw [← hstart c hc]
    rfl
  have hfree : ∀ entry < maglevSize,
      Fill.isFree ⟨Table.blank, start.toArray⟩ entry = true := by
    intro entry hentry
    rw [Fill.isFree_iff, Table.blank, Vector.getElem?_replicate]
    exact if_pos hentry
  refine ⟨?_, fun c hc => ?_, fun c hc j hj => ?_, fun entry hentry htaken => ?_, ?_⟩
  · rw [List.map_congr_left hstart, List.map_id']
  · rw [hnext c (by simpa using hc)]
    exact Nat.zero_le _
  · rw [hnext c (by simpa using hc)] at hj
    exact absurd hj (Nat.not_lt_zero j)
  · rw [hfree entry hentry] at htaken
    exact Bool.noConfusion htaken
  · rw [Table.blank, Vector.toList_replicate, List.count_replicate_self]
    rfl

lemma after (hsound : ∀ c ∈ start, c.Sound) (hstart : ∀ c ∈ start, c.restart = c)
    (hne : start ≠ []) (hk : k ≤ maglevSize) :
    Progress start k (Fill.after ⟨Table.blank, start.toArray⟩ k) := by
  induction k with
  | zero => exact zero hstart
  | succ k ih =>
    have hfill := ih (Nat.le_of_succ_le hk)
    obtain ⟨c, j, hfirst, hturn⟩ := hfill.exists_firstFree hsound hne hk
    rw [Fill.after_succ, hturn]
    exact hfill.claim hsound hfirst

/-- After `maglevSize` turns no entry is left. -/
lemma isFree_eq_false (hfill : Progress start maglevSize fill) (entry : ℕ) :
    fill.isFree entry = false := by
  rw [← Bool.not_eq_true, Fill.isFree_iff]
  intro hfree
  have hcount : fill.table.toList.count maglevEmpty = 0 := by
    have := hfill.free_count
    omega
  rw [← Vector.getElem?_toList] at hfree
  exact List.count_eq_zero.1 hcount (List.mem_of_getElem? hfree)

end Fill.Progress

/-! ### The finished table -/

variable {backends : List Backend}

/-- Without claimants no turn claims anything. -/
lemma Fill.after_of_no_claimants (table : Table) (turns : ℕ) :
    Fill.after ⟨table, [].toArray⟩ turns = ⟨table, [].toArray⟩ := by
  induction turns with
  | zero => rfl
  | succ turns ih =>
    rw [Fill.after_succ, ih]
    rfl

/-- Without a usable backend the table stays empty. -/
theorem buildTable_eq_blank (hnone : ∀ b ∈ backends, b.isUsable = false) :
    buildTable backends = Table.blank := by
  have hclaimants : claimants backends = [] := by
    refine List.eq_nil_iff_forall_not_mem.2 fun c hc => ?_
    obtain ⟨slot, b, hb, husable, -⟩ := Claimant.mem_claimants.1 hc
    rw [hnone b (List.mem_of_getElem? hb)] at husable
    exact Bool.noConfusion husable
  rw [buildTable, hclaimants, Fill.after_of_no_claimants]

lemma claimants_ne_nil (hsome : ∃ b ∈ backends, b.isUsable = true) : claimants backends ≠ [] := by
  obtain ⟨b, hb, husable⟩ := hsome
  obtain ⟨slot, hslot, rfl⟩ := List.getElem_of_mem hb
  exact List.ne_nil_of_mem (Claimant.mem_claimants.2
    ⟨slot, _, List.getElem?_eq_getElem hslot, husable, rfl⟩)

/-- **With a usable backend every entry names one.** -/
theorem getElem?_buildTable (hnumbered : Numbered backends)
    (hsome : ∃ b ∈ backends, b.isUsable = true) {entry : ℕ} (hentry : entry < maglevSize) :
    ∃ slot b, backends[slot]? = some b ∧ b.isUsable = true ∧
      (buildTable backends)[entry]? = some (UInt32.ofNat slot) := by
  have hfill := Fill.Progress.after (fun _ => Claimant.sound_of_mem_claimants hnumbered)
    (fun _ => Claimant.restart_of_mem_claimants) (claimants_ne_nil hsome) (Nat.le_refl maglevSize)
  obtain ⟨c, hc, hname⟩ := hfill.named entry hentry (hfill.isFree_eq_false entry)
  obtain ⟨slot, b, hb, husable, rfl⟩ := Claimant.mem_claimants.1 hc
  rw [buildTable]
  exact ⟨slot, b, hb, husable, hname⟩

/-- Every entry is the number of a usable slot. -/
lemma exists_usable_of_mem_buildTable (hnumbered : Numbered backends)
    (hsome : ∃ b ∈ backends, b.isUsable = true) {entry : UInt32}
    (hentry : entry ∈ (buildTable backends).toList) :
    ∃ b, backends[entry.toNat]? = some b ∧ b.isUsable = true := by
  obtain ⟨i, hi, rfl⟩ := List.getElem_of_mem hentry
  have hlt : i < maglevSize := hi.trans_eq Vector.length_toList
  obtain ⟨slot, b, hb, husable, hname⟩ := getElem?_buildTable hnumbered hsome hlt
  rw [← Vector.getElem?_toList, List.getElem?_eq_getElem hi, Option.some_inj] at hname
  have hslot := hnumbered slot b hb husable
  rw [hname, UInt32.toNat_ofNat_of_lt' (by rw [UInt32.size]; omega)]
  exact ⟨b, hb, husable⟩

end VoiceSteering.Maglev
