/-
# Filling a table look by look

A search for a free entry has no bound of its own.  Here the fill is a loop of single looks, computed
in 64-bit words: the claimant whose turn it is looks at the entry under its cursor, moves the cursor
on, and claims the entry if it is free.  `Fill.Progress` is kept by every look and not only by whole
turns.  As long as an entry is free it lies at or after every cursor, so no cursor leaves the first
round of its progression: the words do not overflow, every search ends, and the loop stops with the
table of `buildTable`.
-/
import Mathlib.Algebra.Order.BigOperators.Group.List
import Mathlib.Algebra.Order.Ring.Nat
import Mathlib.Tactic.Common
import VoiceSteering.Proofs.Maglev.Fill

namespace VoiceSteering.Maglev

/-! ### The loop -/

/-- The entry under the cursor, computed in 64-bit words. -/
def Claimant.entry64 (c : Claimant) : UInt64 :=
  (UInt64.ofNat c.offset + UInt64.ofNat c.next * UInt64.ofNat c.skip) % 4099

/-- The claimant `c` at position `i` finds the entry under its cursor taken. -/
def Fill.pass (fill : Fill) (i : ℕ) (c : Claimant) : Fill where
  table := fill.table
  claimants := fill.claimants.setIfInBounds i { c with next := c.next + 1 }

/-- The state of the loop that fills a table. -/
structure Loop where
  fill : Fill
  /-- The position of the claimant whose turn it is. -/
  position : ℕ
  /-- How many entries have been claimed. -/
  filled : ℕ

namespace Loop

/-- The loop before its first look. -/
def initial (claimants : List Claimant) : Loop := ⟨⟨Table.blank, claimants.toArray⟩, 0, 0⟩

/-- The position after `i` in a round. -/
def following (l : Loop) : ℕ :=
  if l.position + 1 = l.fill.claimants.size then 0 else l.position + 1

/-- One look at the entry under a cursor.  Nothing happens any more once all entries are claimed. -/
def step (l : Loop) : Loop :=
  if l.filled = maglevSize then l
  else match l.fill.claimants[l.position]? with
    | none => l
    | some c =>
      let entry := c.entry64.toNat
      let claimants := l.fill.claimants.setIfInBounds l.position { c with next := c.next + 1 }
      if l.fill.isFree entry then
        ⟨⟨l.fill.table.setIfInBounds entry (UInt32.ofNat c.slot), claimants⟩, l.following,
          l.filled + 1⟩
      else { l with fill := ⟨l.fill.table, claimants⟩ }

/-- The loop after a number of looks. -/
def after (l : Loop) (looks : ℕ) : Loop := step^[looks] l

/-- How many looks the claimants have taken. -/
def looks (l : Loop) : ℕ := (l.fill.claimants.toList.map Claimant.next).sum

end Loop

variable {start : List Claimant} {k : ℕ} {fill : Fill} {c : Claimant} {l : Loop}

/-! ### The arithmetic of one look -/

/-- A claimant whose progression starts inside the table, with its cursor in the first round. -/
structure Claimant.InRound (c : Claimant) : Prop extends c.Sound where
  offset_lt : c.offset < maglevSize
  next_le : c.next ≤ maglevSize

namespace Claimant.InRound

lemma lt_word (hc : c.InRound) : c.offset + c.next * c.skip < 2 ^ 64 := by
  have hoffset := hc.offset_lt
  have hproduct : c.next * c.skip ≤ maglevSize * maglevSize :=
    Nat.mul_le_mul hc.next_le (Nat.le_of_lt hc.skip_lt)
  rw [maglevSize] at hoffset hproduct
  omega

/-- No word overflows. -/
lemma toNat_entry64 (hc : c.InRound) : c.entry64.toNat = c.preference c.next := by
  have hsum := hc.lt_word
  have hsize : (4099 : UInt64).toNat = maglevSize := rfl
  simp only [entry64, preference, UInt64.toNat_mod, UInt64.toNat_add, UInt64.toNat_mul,
    UInt64.toNat_ofNat', hsize, Nat.add_mod_mod, Nat.mod_add_mod, Nat.mul_mod_mod, Nat.mod_mul_mod]
  rw [Nat.mod_eq_of_lt hsum]

end Claimant.InRound

lemma Claimant.inRound_of_mem_claimants {backends : List Backend} (hnumbered : Numbered backends)
    (hc : c ∈ claimants backends) : c.InRound := by
  have hsound := sound_of_mem_claimants hnumbered hc
  obtain ⟨slot, b, -, -, rfl⟩ := mem_claimants.1 hc
  exact ⟨hsound, Nat.mod_lt _ (by decide), Nat.zero_le _⟩

/-! ### What a look does -/

namespace Fill.Progress

lemma inRound (hfill : Progress start k fill) (hstart : ∀ c ∈ start, c.InRound)
    (hc : c ∈ fill.claimants) : c.InRound :=
  ⟨hfill.sound (fun c hc => (hstart c hc).toSound) hc, (hstart _ (hfill.restart_mem hc)).offset_lt,
    hfill.next_le c hc⟩

/-- While an entry is free, no cursor has come to the end of its round. -/
lemma next_lt (hfill : Progress start k fill) (hstart : ∀ c ∈ start, c.Sound)
    (hk : k < maglevSize) (hc : c ∈ fill.claimants) : c.next < maglevSize := by
  obtain ⟨j, hnext, hj, -⟩ :=
    exists_seek_eq (hfill.sound hstart hc) (hfill.taken c hc) (hfill.exists_isFree hk)
  exact Nat.lt_of_le_of_lt hnext hj

/-- Moving a cursor past an entry that is taken claims nothing. -/
lemma pass {i : ℕ} (hfill : Progress start k fill) (hc : fill.claimants[i]? = some c)
    (hnext : c.next < maglevSize) (htaken : fill.isFree (c.preference c.next) = false) :
    Progress start k (fill.pass i c) := by
  have hmem : c ∈ fill.claimants := Array.mem_of_getElem? hc
  have hcases : ∀ c' ∈ (fill.pass i c).claimants,
      c' ∈ fill.claimants ∨ c' = { c with next := c.next + 1 } :=
    fun c' hc' => Array.mem_or_eq_of_mem_setIfInBounds hc'
  refine ⟨?_, fun c' hc' => ?_, fun c' hc' j hj => ?_, hfill.named, hfill.free_count⟩
  · exact (map_restart_setIfInBounds hc (c.next + 1)).trans hfill.claimants_eq
  · rcases hcases c' hc' with hold | rfl
    · exact hfill.next_le c' hold
    · exact hnext
  · rcases hcases c' hc' with hold | rfl
    · exact hfill.taken c' hold j hj
    · rcases Nat.lt_succ_iff_lt_or_eq.1 hj with hlt | rfl
      · exact hfill.taken c hmem j hlt
      · exact htaken

end Fill.Progress

/-- Past a taken entry the claimant still claims the same entry as its next one. -/
lemma Fill.claim_pass (fill : Fill) (i : ℕ) (c : Claimant) (j : ℕ) :
    (fill.pass i c).claim i { c with next := c.next + 1 } j = fill.claim i c j := by
  simp only [claim, pass, Array.setIfInBounds_setIfInBounds]
  rfl

namespace Loop

/-- What is known of the loop between two looks. -/
structure Sound (start : List Claimant) (l : Loop) : Prop where
  progress : Fill.Progress start l.filled l.fill
  position_eq : l.position = l.filled % start.length

namespace Sound

lemma filled_le (hl : l.Sound start) : l.filled ≤ maglevSize := by
  have := hl.progress.free_count
  omega

lemma following_eq (hl : l.Sound start) (hne : start ≠ []) :
    l.following = (l.filled + 1) % start.length := by
  have hlt : l.filled % start.length < start.length :=
    Nat.mod_lt _ (List.length_pos_iff.2 hne)
  rw [following, hl.progress.size_eq, hl.position_eq, ← Nat.mod_add_mod]
  split
  · next hlast => rw [hlast, Nat.mod_self]
  · next hlast => exact (Nat.mod_eq_of_lt (Nat.lt_of_le_of_ne hlt hlast)).symm

/-- A look finds the entry under a cursor free and claims it, or taken. -/
lemma step_cases (hl : l.Sound start) (hstart : ∀ c ∈ start, c.InRound) (hne : start ≠ [])
    (hopen : l.filled < maglevSize) :
    ∃ c, l.fill.claimants[l.position]? = some c ∧ c.next < maglevSize ∧
      (l.fill.isFree (c.preference c.next) = true ∧
          l.step = ⟨l.fill.claim l.position c c.next, l.following, l.filled + 1⟩ ∨
        l.fill.isFree (c.preference c.next) = false ∧
          l.step = { l with fill := l.fill.pass l.position c }) := by
  have hposition : l.position < l.fill.claimants.size := by
    rw [hl.progress.size_eq, hl.position_eq]
    exact Nat.mod_lt _ (List.length_pos_iff.2 hne)
  obtain ⟨c, hc⟩ : ∃ c, l.fill.claimants[l.position]? = some c :=
    ⟨_, Array.getElem?_eq_getElem hposition⟩
  have hmem : c ∈ l.fill.claimants := Array.mem_of_getElem? hc
  have hentry : c.entry64.toNat = c.preference c.next :=
    (hl.progress.inRound hstart hmem).toNat_entry64
  have hnext : c.next < maglevSize :=
    hl.progress.next_lt (fun c hc => (hstart c hc).toSound) hopen hmem
  refine ⟨c, hc, hnext, ?_⟩
  simp only [step, if_neg (Nat.ne_of_lt hopen), hc, hentry]
  cases hfree : l.fill.isFree (c.preference c.next) with
  | true => exact .inl ⟨rfl, rfl⟩
  | false => exact .inr ⟨rfl, rfl⟩

end Sound

/-! ### Any number of looks -/

lemma after_succ (l : Loop) (n : ℕ) : l.after (n + 1) = (l.after n).step :=
  Function.iterate_succ_apply' step n l

lemma after_add (l : Loop) (m n : ℕ) : l.after (m + n) = (l.after m).after n := by
  rw [Nat.add_comm]
  exact Function.iterate_add_apply step n m l

/-- A loop that has claimed all entries has stopped. -/
lemma after_of_filled (hfull : l.filled = maglevSize) (n : ℕ) : l.after n = l := by
  have hstep : l.step = l := if_pos hfull
  exact Function.iterate_fixed hstep n

namespace Sound

lemma step (hl : l.Sound start) (hstart : ∀ c ∈ start, c.InRound) (hne : start ≠ []) :
    l.step.Sound start := by
  rcases Nat.eq_or_lt_of_le hl.filled_le with hfull | hopen
  · rwa [show l.step = l from after_of_filled hfull 1]
  · obtain ⟨c, hc, hnext, ⟨hfree, hstep⟩ | ⟨htaken, hstep⟩⟩ := hl.step_cases hstart hne hopen
    · have hmem : c ∈ l.fill.claimants := Array.mem_of_getElem? hc
      have hfirst : l.fill.FirstFree l.position c c.next :=
        ⟨hc, Nat.le_refl _, hnext, hfree, hl.progress.taken c hmem⟩
      rw [hstep]
      exact ⟨hl.progress.claim (fun c hc => (hstart c hc).toSound) hfirst, hl.following_eq hne⟩
    · rw [hstep]
      exact ⟨hl.progress.pass hc hnext htaken, hl.position_eq⟩

lemma after (hl : l.Sound start) (hstart : ∀ c ∈ start, c.InRound) (hne : start ≠ []) (n : ℕ) :
    (l.after n).Sound start := by
  induction n with
  | zero => exact hl
  | succ n ih =>
    rw [after_succ]
    exact ih.step hstart hne

/-! ### Searches end -/

/-- The search of a claimant ends at its first free preference. -/
lemma exists_after_eq_claim (hl : l.Sound start) (hstart : ∀ c ∈ start, c.InRound)
    (hne : start ≠ []) (hopen : l.filled < maglevSize) {j : ℕ}
    (hfirst : l.fill.FirstFree l.position c j) :
    ∃ n, l.after n = ⟨l.fill.claim l.position c j, l.following, l.filled + 1⟩ := by
  -- by induction on the distance of the cursor from the entry
  obtain ⟨d, hd⟩ : ∃ d, j = c.next + d := Nat.exists_eq_add_of_le hfirst.next_le
  induction d generalizing l c with
  | zero =>
    obtain ⟨c', hc', -, ⟨-, hstep⟩ | ⟨htaken, -⟩⟩ := hl.step_cases hstart hne hopen
    all_goals obtain rfl : c = c' := Option.some_inj.1 (hfirst.claimant.symm.trans hc')
    · exact ⟨1, by rw [hd]; exact hstep⟩
    · rw [← Nat.add_zero c.next, ← hd, hfirst.free] at htaken
      exact Bool.noConfusion htaken
  | succ d ih =>
    obtain ⟨c', hc', -, ⟨hfree, -⟩ | ⟨-, hstep⟩⟩ := hl.step_cases hstart hne hopen
    all_goals obtain rfl : c = c' := Option.some_inj.1 (hfirst.claimant.symm.trans hc')
    · rw [hfirst.taken c.next (by omega)] at hfree
      exact Bool.noConfusion hfree
    · have hposition : l.position < l.fill.claimants.size :=
        (Array.getElem?_eq_some_iff.1 hc').1
      have hpassed : (l.fill.pass l.position c).FirstFree l.position
          { c with next := c.next + 1 } j :=
        ⟨Array.getElem?_setIfInBounds_self_of_lt hposition, by simp only; omega, hfirst.lt_size,
          hfirst.free, hfirst.taken⟩
      have hnext : l.step.Sound start := hl.step hstart hne
      rw [hstep] at hnext
      obtain ⟨n, hn⟩ := ih hnext hopen hpassed (by simp only; omega)
      refine ⟨1 + n, ?_⟩
      rw [after_add, show l.after 1 = _ from hstep, hn, Fill.claim_pass]
      simp only [following, Fill.pass, Array.size_setIfInBounds]

/-- A turn of `Fill.turn` is a search of the loop. -/
lemma exists_after_eq_turn (hl : l.Sound start) (hstart : ∀ c ∈ start, c.InRound)
    (hne : start ≠ []) (hopen : l.filled < maglevSize) :
    ∃ n, l.after n = ⟨l.fill.turn l.filled, (l.filled + 1) % start.length, l.filled + 1⟩ := by
  obtain ⟨c, j, hfirst, hturn⟩ :=
    hl.progress.exists_firstFree (fun c hc => (hstart c hc).toSound) hne hopen
  rw [← hl.position_eq] at hfirst hturn
  rw [hturn, ← hl.following_eq hne]
  exact hl.exists_after_eq_claim hstart hne hopen hfirst

lemma initial (hstart : ∀ c ∈ start, c.restart = c) : (initial start).Sound start :=
  ⟨Fill.Progress.zero hstart, (Nat.zero_mod _).symm⟩

end Sound

/-- The loop comes by the fill after any number of turns. -/
lemma exists_after_eq_fill (hround : ∀ c ∈ start, c.InRound) (hstart : ∀ c ∈ start, c.restart = c)
    (hne : start ≠ []) (hk : k ≤ maglevSize) :
    ∃ n, (initial start).after n =
      ⟨Fill.after ⟨Table.blank, start.toArray⟩ k, k % start.length, k⟩ := by
  induction k with
  | zero => exact ⟨0, by rw [Nat.zero_mod]; rfl⟩
  | succ k ih =>
    obtain ⟨n, hn⟩ := ih (Nat.le_of_succ_le hk)
    have hl := (Sound.initial hstart).after hround hne n
    rw [hn] at hl
    obtain ⟨m, hm⟩ := hl.exists_after_eq_turn hround hne hk
    exact ⟨n + m, by rw [after_add, hn, hm, Fill.after_succ]⟩

/-! ### The number of looks -/

lemma sum_set_succ {counts : List ℕ} {i n : ℕ} (hi : counts[i]? = some n) :
    (counts.set i (n + 1)).sum = counts.sum + 1 := by
  obtain ⟨hlt, rfl⟩ := List.getElem?_eq_some_iff.1 hi
  have hsame : counts.sum = (counts.set i counts[i]).sum := by rw [List.set_getElem_self]
  rw [hsame, List.sum_set, List.sum_set, if_pos hlt, if_pos hlt]
  omega

lemma looks_step (hl : l.Sound start) (hstart : ∀ c ∈ start, c.InRound) (hne : start ≠ [])
    (hopen : l.filled < maglevSize) : l.step.looks = l.looks + 1 := by
  obtain ⟨c, hc, -, hcases⟩ := hl.step_cases hstart hne hopen
  -- either way the look has moved the cursor by one
  have hmoved : l.step.fill.claimants =
      l.fill.claimants.setIfInBounds l.position { c with next := c.next + 1 } := by
    rcases hcases with ⟨-, hstep⟩ | ⟨-, hstep⟩
    · rw [hstep]
      rfl
    · rw [hstep]
      rfl
  have hnext : (l.fill.claimants.toList.map Claimant.next)[l.position]? = some c.next := by
    rw [List.getElem?_map, Array.getElem?_toList, hc]
    rfl
  rw [looks, hmoved, Array.toList_setIfInBounds, List.map_set, sum_set_succ hnext]
  rfl

lemma Sound.looks_le (hl : l.Sound start) : l.looks ≤ start.length * maglevSize := by
  have hle : ∀ n ∈ l.fill.claimants.toList.map Claimant.next, n ≤ maglevSize := by
    intro n hn
    obtain ⟨c, hc, rfl⟩ := List.mem_map.1 hn
    exact hl.progress.next_le c (Array.mem_toList_iff.1 hc)
  have hsum := List.sum_le_card_nsmul _ _ hle
  rwa [List.length_map, Array.length_toList, hl.progress.size_eq, Nat.nsmul_eq_mul] at hsum

lemma looks_initial (hstart : ∀ c ∈ start, c.restart = c) : (initial start).looks = 0 := by
  refine List.sum_eq_zero fun n hn => ?_
  obtain ⟨c, hc, rfl⟩ := List.mem_map.1 hn
  rw [← hstart c hc]
  rfl

/-- As long as the loop goes on, its looks can be counted at the cursors. -/
lemma looks_after (hround : ∀ c ∈ start, c.InRound) (hstart : ∀ c ∈ start, c.restart = c)
    (hne : start ≠ []) {n : ℕ} (hopen : ((initial start).after n).filled < maglevSize) :
    ((initial start).after (n + 1)).looks = n + 1 := by
  have hl := (Sound.initial hstart).after hround hne n
  rw [after_succ, looks_step hl hround hne hopen]
  cases n with
  | zero => rw [show (initial start).after 0 = initial start from rfl, looks_initial hstart]
  | succ n =>
    rcases Nat.eq_or_lt_of_le ((Sound.initial hstart).after hround hne n).filled_le with hfull | hlt
    · rw [after_add, after_of_filled hfull, hfull] at hopen
      exact absurd hopen (Nat.lt_irrefl _)
    · rw [looks_after hround hstart hne hlt]

/-- **The loop stops** after at most one round of looks for each claimant. -/
theorem filled_after_eq (hround : ∀ c ∈ start, c.InRound) (hstart : ∀ c ∈ start, c.restart = c)
    (hne : start ≠ []) {n : ℕ} (hn : start.length * maglevSize ≤ n) :
    ((initial start).after n).filled = maglevSize := by
  refine (Nat.eq_or_lt_of_le ((Sound.initial hstart).after hround hne n).filled_le).resolve_right
    fun hopen => ?_
  have hcount := looks_after hround hstart hne hopen
  have hbound := ((Sound.initial hstart).after hround hne (n + 1)).looks_le
  omega

/-- A loop that has stopped has taken all turns. -/
lemma fill_of_filled (hround : ∀ c ∈ start, c.InRound) (hstart : ∀ c ∈ start, c.restart = c)
    (hne : start ≠ []) {n : ℕ} (hfull : ((initial start).after n).filled = maglevSize) :
    ((initial start).after n).fill = Fill.after ⟨Table.blank, start.toArray⟩ maglevSize := by
  obtain ⟨m, hm⟩ := exists_after_eq_fill hround hstart hne (Nat.le_refl maglevSize)
  have hstopped : ((initial start).after m).filled = maglevSize := by rw [hm]
  have hsame : (initial start).after n = (initial start).after m := by
    rw [← after_of_filled hfull m, ← after_add, Nat.add_comm, after_add, after_of_filled hstopped]
  rw [hsame, hm]

end Loop

/-! ### Every pool -/

variable {backends : List Backend}

/-- The loop that fills the table of a pool, after a number of looks. -/
def fillLoop (backends : List Backend) (looks : ℕ) : Loop :=
  (Loop.initial (claimants backends)).after looks

/-- **The fill of a table comes to an end for every pool**, and with a usable backend every entry is
the number of one.  On the way no cursor leaves its first round, no word overflows, and every search
comes to a free entry. -/
theorem fill_terminates (hlength : backends.length < 2 ^ 32 - 1) :
    (buildTable backends).toList.length = maglevSize ∧
    ((∀ b ∈ backends, b.isUsable = false) →
      ∀ entry ∈ (buildTable backends).toList, entry = maglevEmpty) ∧
    ((∃ b ∈ backends, b.isUsable = true) →
      (∀ entry ∈ (buildTable backends).toList,
        ∃ b, backends[entry.toNat]? = some b ∧ b.isUsable = true) ∧
      (∀ looks, (claimants backends).length * maglevSize ≤ looks →
        (fillLoop backends looks).filled = maglevSize ∧
          (fillLoop backends looks).fill.table = buildTable backends) ∧
      ∀ looks, (∀ c ∈ (fillLoop backends looks).fill.claimants,
          c.next ≤ maglevSize ∧ c.offset + c.next * c.skip < 2 ^ 64) ∧
        ((fillLoop backends looks).filled < maglevSize → ∃ more,
          (fillLoop backends (looks + more)).filled = (fillLoop backends looks).filled + 1)) := by
  have hnumbered : Numbered backends := numbered_of_length_lt hlength
  refine ⟨Vector.length_toList, fun hnone entry hentry => ?_, fun hsome => ⟨?_, ?_, ?_⟩⟩
  · rw [buildTable_eq_blank hnone, Table.blank, Vector.toList_replicate] at hentry
    exact List.eq_of_mem_replicate hentry
  · exact fun entry hentry => exists_usable_of_mem_buildTable hnumbered hsome hentry
  all_goals
    have hround : ∀ c ∈ claimants backends, c.InRound :=
      fun c => Claimant.inRound_of_mem_claimants hnumbered
    have hstart : ∀ c ∈ claimants backends, c.restart = c :=
      fun c => Claimant.restart_of_mem_claimants
    have hne : claimants backends ≠ [] := claimants_ne_nil hsome
  · intro looks hlooks
    have hfull := Loop.filled_after_eq hround hstart hne hlooks
    refine ⟨hfull, ?_⟩
    rw [fillLoop, buildTable, Loop.fill_of_filled hround hstart hne hfull]
  · intro looks
    have hl := (Loop.Sound.initial hstart).after hround hne looks
    refine ⟨fun c hc => ?_, fun hopen => ?_⟩
    · have hc' := hl.progress.inRound hround hc
      exact ⟨hc'.next_le, hc'.lt_word⟩
    · obtain ⟨more, hmore⟩ := hl.exists_after_eq_turn hround hne hopen
      refine ⟨more, ?_⟩
      rw [fillLoop, Loop.after_add, hmore]
      rfl

/-- Two backends at one address prefer the entries in the same order, so each comes upon what the
other one has claimed. -/
theorem twinBackends_fill :
    let b : Backend := { address := 0x0a000001, port := 5060, flags := 1 }
    let backends := [b, Backend.empty, b]
    (∀ entry ∈ (buildTable backends).toList,
        ∃ b, backends[entry.toNat]? = some b ∧ b.isUsable = true) ∧
      (fillLoop backends (2 * maglevSize)).filled = maglevSize := by
  intro b backends
  have hlength : backends.length < 2 ^ 32 - 1 := by decide
  obtain ⟨-, -, hends⟩ := fill_terminates hlength
  obtain ⟨hnamed, hstops, -⟩ := hends ⟨b, List.mem_cons_self, by decide⟩
  have htwo : (claimants backends).length = 2 := by decide +kernel
  have hround : (claimants backends).length * maglevSize ≤ 2 * maglevSize := by rw [htwo]
  refine ⟨hnamed, ?_⟩
  rw [(hstops (2 * maglevSize) hround).1]

end VoiceSteering.Maglev
