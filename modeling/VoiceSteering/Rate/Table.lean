/-
# A table of rate records

The records of all sources as an association list, with an optional bound on their number.  A full
table refuses new sources and evicts nobody.
-/
import VoiceSteering.Rate.Admission

namespace VoiceSteering.Rate

/-- Records by source.  No source occurs twice. -/
abbrev Records := List (Address × Record)

namespace Records

/-- The record of a source. -/
def find? : Records → Address → Option Record
  | [], _ => none
  | (a, r) :: rs, source => if a = source then some r else find? rs source

/-- The records with that of a source overwritten. -/
def replace (rs : Records) (source : Address) (r : Record) : Records :=
  rs.map fun entry => if entry.1 = source then (source, r) else entry

/-- The records without that of a source. -/
def erase (rs : Records) (source : Address) : Records := rs.filter fun entry => entry.1 ≠ source

/-- The records with one for a source, overwritten in place or added at the end. -/
def put (rs : Records) (source : Address) (r : Record) : Records :=
  if (rs.find? source).isSome then rs.replace source r else rs ++ [(source, r)]

/-- The records in ascending order of their sources. -/
def sorted (rs : Records) : Records := rs.mergeSort fun a b => a.1 ≤ b.1

theorem find?_erase (rs : Records) (source other : Address) :
    (rs.erase source).find? other = if other = source then none else rs.find? other := by
  induction rs with
  | nil => exact (ite_self none).symm
  | cons entry rs ih =>
    obtain ⟨a, r⟩ := entry
    by_cases ha : a = source
    · -- the entry is left out, and nobody but the source would have found it
      have herase : erase ((a, r) :: rs) source = erase rs source :=
        List.filter_cons_of_neg (by simp [ha])
      rw [herase, ih]
      by_cases hother : other = source
      · rw [if_pos hother, if_pos hother]
      · have hne : a ≠ other := fun heq => hother (heq.symm.trans ha)
        rw [if_neg hother, if_neg hother, find?, if_neg hne]
    · have herase : erase ((a, r) :: rs) source = (a, r) :: erase rs source :=
        List.filter_cons_of_pos (by simp [ha])
      rw [herase, find?, find?]
      by_cases hfound : a = other
      · have hne : other ≠ source := fun heq => ha (hfound.trans heq)
        rw [if_pos hfound, if_pos hfound, if_neg hne]
      · rw [if_neg hfound, if_neg hfound, ih]

end Records

/-- A rate table with an optional bound on the number of its records. -/
structure Table where
  records : Records := []
  capacity : Option Nat := none
deriving DecidableEq, Repr

namespace Table

/-- Whether a new source would be refused. -/
def isFull (t : Table) : Bool :=
  match t.capacity with
  | some capacity => capacity ≤ t.records.length
  | none => false

def insert (t : Table) (source : Address) (r : Record) : Bool × Table :=
  if t.isFull then (false, t) else (true, { t with records := t.records.put source r })

/-- The table without the record of a source. -/
def erase (t : Table) (source : Address) : Table := { t with records := t.records.erase source }

end Table

instance : Store Table where
  lookup t source := (t.records.find? source, t)
  update t source r := { t with records := t.records.replace source r }
  insert := Table.insert

end VoiceSteering.Rate
