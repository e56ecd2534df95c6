/-
# Operations on a pool that run at the same time

Between two accesses of an operation other processes may make theirs.  Here two operations take
turns in any order, one access in each turn.  An operation that nobody interrupts ends as it does
when it runs alone.
-/
import Mathlib.Logic.Function.Basic
import Mathlib.Tactic.Common
import VoiceSteering.Proofs.Pool.Script

namespace VoiceSteering

namespace PoolScript

variable {α : Type}

/-- One access: what is left of the script, and the maps after the access. -/
def step : PoolScript α → PoolMaps → PoolScript α × PoolMaps
  | done a, maps => (done a, maps)
  | fail e, maps => (fail e, maps)
  | readSlot slot next, maps => (next (maps.slots.get slot), maps)
  | writeSlot ⟨slot, _⟩ b next, maps => (next, { maps with slots := maps.slots.set slot b })
  | writeEntry ⟨index, _⟩ entry next, maps =>
    (next, { maps with maglev := maps.maglev.set index entry })

/-- What is left of a script that has ended. -/
def ended : Except Failure α → PoolScript α
  | .ok a => done a
  | .error e => fail e

/-- A script that runs alone makes one access after the other. -/
lemma run_step (script : PoolScript α) (maps : PoolMaps) :
    (script.step maps).1.run granted (script.step maps).2 = script.run granted maps := by
  cases script <;> rfl

end PoolScript

/-- Two operations on the maps of one pool, each partly done. -/
structure Overlap where
  maps : PoolMaps
  /-- What is left of each operation. -/
  remaining : Bool → PoolScript Unit

namespace Overlap

/-- One of the operations makes its next access. -/
def turn (s : Overlap) (who : Bool) : Overlap :=
  let next := (s.remaining who).step s.maps
  ⟨next.2, Function.update s.remaining who next.1⟩

def run (s : Overlap) (turns : List Bool) : Overlap := turns.foldl turn s

/-- Both operations have succeeded. -/
def Finished (s : Overlap) : Prop := ∀ who, s.remaining who = .done ()

variable {s : Overlap} {who : Bool} {script : PoolScript Unit} {maps : PoolMaps}

lemma turn_of_step (hstep : (s.remaining who).step s.maps = (script, maps)) :
    s.turn who = ⟨maps, Function.update s.remaining who script⟩ := by
  rw [turn, hstep]

lemma remaining_turn (s : Overlap) (who : Bool) :
    (s.turn who).remaining who = ((s.remaining who).step s.maps).1 :=
  Function.update_self ..

lemma run_cons (who : Bool) (turns : List Bool) : s.run (who :: turns) = (s.turn who).run turns :=
  rfl

/-- The state once one of the operations has run to its end alone. -/
def alone (s : Overlap) (who : Bool) : Overlap :=
  let ran := (s.remaining who).run PoolScript.granted s.maps
  ⟨ran.2, Function.update s.remaining who (.ended ran.1)⟩

lemma alone_turn (s : Overlap) (who : Bool) : (s.turn who).alone who = s.alone who := by
  have hrun := PoolScript.run_step (s.remaining who) s.maps
  rw [alone, remaining_turn]
  simp only [alone, turn, hrun, Function.update_idem]

lemma alone_of_ended (result : Except Failure Unit)
    (hrun : (s.remaining who).run PoolScript.granted s.maps = (result, s.maps))
    (hended : s.remaining who = .ended result) : s.alone who = s := by
  rw [alone, hrun, ← hended, Function.update_eq_self]

lemma exists_run_eq_alone_of_turn
    (h : ∃ n, (s.turn who).run (List.replicate n who) = (s.turn who).alone who) :
    ∃ n, s.run (List.replicate n who) = s.alone who := by
  obtain ⟨n, hn⟩ := h
  exact ⟨n + 1, by rw [List.replicate_succ, run_cons, hn, alone_turn]⟩

/-- **An operation that nobody interrupts** ends as it does when it runs alone. -/
theorem exists_run_eq_alone (s : Overlap) (who : Bool) :
    ∃ n, s.run (List.replicate n who) = s.alone who := by
  -- by induction on what is left of the operation
  obtain ⟨script, hscript⟩ : ∃ script, s.remaining who = script := ⟨_, rfl⟩
  induction script generalizing s with
  | done a => exact ⟨0, (alone_of_ended (.ok a) (by rw [hscript]; rfl) hscript).symm⟩
  | fail e => exact ⟨0, (alone_of_ended (.error e) (by rw [hscript]; rfl) hscript).symm⟩
  | readSlot slot next ih =>
    exact exists_run_eq_alone_of_turn (ih _ (s.turn who) (by rw [remaining_turn, hscript]; rfl))
  | writeSlot slot b next ih =>
    exact exists_run_eq_alone_of_turn (ih (s.turn who) (by rw [remaining_turn, hscript]; rfl))
  | writeEntry index entry next ih =>
    exact exists_run_eq_alone_of_turn (ih (s.turn who) (by rw [remaining_turn, hscript]; rfl))

end Overlap

end VoiceSteering
