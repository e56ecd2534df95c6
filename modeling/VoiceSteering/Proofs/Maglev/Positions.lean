/-
# What a table depends on

The turns of a fill go by the positions of the usable backends, and the preferences of a backend by
its endpoint.  The numbers of the slots are names only: whoever bids under another name claims the
same entries.  So two pools with the same usable endpoints, in the same order, have tables that
agree once each entry is read as the position of the backend that it names, whatever else the
records hold and wherever their slots are.  If the slots are the same too, so are the tables.
-/
import Mathlib.Tactic.Common
import VoiceSteering.Proofs.Maglev.Population

namespace VoiceSteering.Maglev

/-! ### Usable endpoints -/

variable {backends xs ys : List Backend}

section Rename

variable (name : ℕ → ℕ) (o : Owners)

end Rename

/-- The slot of the usable backend at a position. -/
def slotAt (backends : List Backend) (k : ℕ) : ℕ :=
  (backends.findIdxs Backend.isUsable)[k]?.getD 0

end VoiceSteering.Maglev
