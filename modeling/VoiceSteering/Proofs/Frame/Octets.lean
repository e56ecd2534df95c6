/-
# Loads and stores on a list of octets

What a load returns is said octet by octet, and a store is related to the loads after it: a load of
what was just stored returns it, a load beside it returns what was there before.  Everything later
about redirected frames is said through these lemmas, so nothing else opens `load` and `overwrite`.
-/
import Mathlib.Tactic.Common
import VoiceSteering.Frame.Access

namespace VoiceSteering.Frame

namespace Octets

variable {frame : Octets} {offset n : ℕ}

/-! ### Loads -/

lemma load_eq_some_iff {v : Vector UInt8 n} :
    frame.load offset n = some v ↔
      offset + n ≤ frame.length ∧ ∀ i (hi : i < n), frame[offset + i]? = some v[i] := by
  unfold load
  constructor
  · intro h
    split at h
    · next hle =>
      refine ⟨hle, fun i hi => ?_⟩
      rw [← Option.some_inj.1 h, Vector.getElem_ofFn, List.getElem?_eq_getElem (by omega)]
    · exact absurd h (by simp)
  · rintro ⟨hle, hv⟩
    rw [dif_pos hle]
    congr 1
    ext i hi
    have := hv i hi
    rw [List.getElem?_eq_getElem (by omega), Option.some_inj] at this
    rw [Vector.getElem_ofFn, this]

lemma getElem?_of_load {v : Vector UInt8 n} (h : frame.load offset n = some v) {i : ℕ}
    (hi : i < n) : frame[offset + i]? = some v[i] :=
  (load_eq_some_iff.1 h).2 i hi

/-- Two frames from which one load returns the same have the same octets there. -/
lemma getElem?_eq_of_load_eq {other : Octets} {v : Vector UInt8 n}
    (h : frame.load offset n = some v) (hother : other.load offset n = some v) {i : ℕ}
    (hle : offset ≤ i) (hlt : i < offset + n) : other[i]? = frame[i]? := by
  have hbefore := getElem?_of_load h (i := i - offset) (by omega)
  have hafter := getElem?_of_load hother (i := i - offset) (by omega)
  rw [Nat.add_sub_cancel' hle] at hbefore hafter
  exact hafter.trans hbefore.symm

lemma le_length_of_load {v : Vector UInt8 n} (h : frame.load offset n = some v) :
    offset + n ≤ frame.length :=
  (load_eq_some_iff.1 h).1

lemma isSome_load_iff : (frame.load offset n).isSome ↔ offset + n ≤ frame.length := by
  unfold load
  split
  · next hle => exact iff_of_true rfl hle
  · next hlong => exact iff_of_false Bool.false_ne_true hlong

lemma exists_load (h : offset + n ≤ frame.length) : ∃ v, frame.load offset n = some v :=
  Option.isSome_iff_exists.1 (isSome_load_iff.2 h)

/-- A load depends only on the length and on the octets that it returns. -/
lemma load_congr {other : Octets} (hlen : other.length = frame.length)
    (h : ∀ i, offset ≤ i → i < offset + n → other[i]? = frame[i]?) :
    other.load offset n = frame.load offset n := by
  by_cases hle : offset + n ≤ frame.length
  · obtain ⟨v, hv⟩ := exists_load hle
    rw [hv, load_eq_some_iff]
    refine ⟨by omega, fun i hi => ?_⟩
    rw [h _ (by omega) (by omega), getElem?_of_load hv hi]
  · unfold load
    rw [dif_neg hle, dif_neg (by omega)]

/-! ### Stores -/

lemma store_eq_some (v : Vector UInt8 n) (h : offset + n ≤ frame.length) :
    frame.store offset v = some (frame.overwrite offset v) :=
  if_pos h

lemma getElem?_overwrite_of_notMem {v : Vector UInt8 n} {i : ℕ}
    (h : i < offset ∨ offset + n ≤ i) : (frame.overwrite offset v)[i]? = frame[i]? := by
  rw [getElem?_overwrite, dif_neg (by omega)]

lemma load_overwrite_self (v : Vector UInt8 n) (h : offset + n ≤ frame.length) :
    (frame.overwrite offset v).load offset n = some v := by
  rw [load_eq_some_iff]
  refine ⟨by simpa using h, fun i hi => ?_⟩
  rw [getElem?_overwrite, dif_pos (by omega), List.getElem?_eq_getElem (by omega), Option.map_some]
  simp

lemma load_overwrite_of_disjoint {m other : ℕ} (v : Vector UInt8 m)
    (h : offset + n ≤ other ∨ other + m ≤ offset) :
    (frame.overwrite other v).load offset n = frame.load offset n :=
  load_congr (by simp) fun _ _ _ => getElem?_overwrite_of_notMem (by omega)

/-! ### Slices -/

/-- The octets from one offset up to, but not including, another one. -/
def slice (frame : Octets) (start stop : ℕ) : Octets := (frame.take stop).drop start

lemma getElem?_slice (frame : Octets) (start stop i : ℕ) :
    (frame.slice start stop)[i]? = if start + i < stop then frame[start + i]? else none := by
  rw [slice, List.getElem?_drop, List.getElem?_take]

lemma length_slice (frame : Octets) (start stop : ℕ) :
    (frame.slice start stop).length = min stop frame.length - start := by
  rw [slice, List.length_drop, List.length_take]

lemma slice_append {start middle stop : ℕ} (h₁ : start ≤ middle) (h₂ : middle ≤ stop)
    (hle : middle ≤ frame.length) :
    frame.slice start middle ++ frame.slice middle stop = frame.slice start stop := by
  apply List.ext_getElem?
  intro i
  rw [List.getElem?_append, length_slice, getElem?_slice, getElem?_slice, getElem?_slice]
  by_cases hi : i < middle - start
  · rw [if_pos (by omega), if_pos (by omega), if_pos (by omega)]
  · have hsum : middle + (i - (min middle frame.length - start)) = start + i := by omega
    rw [if_neg (by omega), hsum]

lemma slice_congr {other : Octets} {start stop : ℕ}
    (h : ∀ i, start ≤ i → i < stop → other[i]? = frame[i]?) :
    other.slice start stop = frame.slice start stop := by
  apply List.ext_getElem?
  intro i
  rw [getElem?_slice, getElem?_slice]
  split
  · next hi => exact h _ (by omega) hi
  · rfl

lemma slice_eq_of_load {v : Vector UInt8 n} (h : frame.load offset n = some v) :
    frame.slice offset (offset + n) = v.toList := by
  apply List.ext_getElem?
  intro i
  rw [getElem?_slice]
  by_cases hi : i < n
  · rw [if_pos (by omega), getElem?_of_load h hi, List.getElem?_eq_getElem (by simpa using hi)]
    simp
  · rw [if_neg (by omega), List.getElem?_eq_none (by simpa using hi)]

end Octets

end VoiceSteering.Frame
