/-
# Frames in memory

A window compares the end of an access, computed with wrapping words, with its own end.  As long as
the words do not wrap, it grants exactly the accesses that a list of its octets grants, a load returns
the same octets, and a store changes the same ones and nothing outside.

Without the condition this fails: an access whose end wraps around passes the comparison although it
lies behind the window.  A `Watched` window is one in which such accesses are answered by somebody
else, so that whoever makes one can be told apart from whoever does not.
-/
import Mathlib.Algebra.Group.Nat.Defs
import Mathlib.Tactic.Common
import VoiceSteering.Proofs.Frame.Octets

namespace VoiceSteering.Frame

namespace Window

variable {w : Window} {offset n : ℕ}

/-- An address lies in the window. -/
def Covers (w : Window) (a : UInt64) : Prop := w.start ≤ a ∧ a < w.stop

instance (w : Window) (a : UInt64) : Decidable (w.Covers a) := instDecidableAnd

lemma covers_iff {a : UInt64} :
    w.Covers a ↔ w.start.toNat ≤ a.toNat ∧ a.toNat < w.stop.toNat := by
  rw [Covers, UInt64.le_iff_toNat_le, UInt64.lt_iff_toNat_lt]

/-- The comparison grants an access although it touches an address outside. -/
def Strays (w : Window) (offset n : ℕ) : Prop :=
  w.contains offset n = true ∧ ¬∀ i < n, w.Covers (w.address offset i)

instance (w : Window) (offset n : ℕ) : Decidable (w.Strays offset n) := instDecidableAnd

/-! ### Addresses -/

lemma toNat_add_ofNat {a : UInt64} {k : ℕ} (hk : a.toNat + k < 2 ^ 64) :
    (a + UInt64.ofNat k).toNat = a.toNat + k := by
  rw [UInt64.toNat_add, UInt64.toNat_ofNat']
  omega

lemma toNat_address (hroom : w.start.toNat + (offset + n) < 2 ^ 64) :
    (w.address offset n).toNat = w.start.toNat + offset + n := by
  have hoffset := toNat_add_ofNat (a := w.start) (k := offset) (by omega)
  rw [address, toNat_add_ofNat (by omega), hoffset]

@[simp] lemma length_octets : w.octets.length = w.stop.toNat - w.start.toNat := by
  simp [octets]

lemma getElem?_octets (i : ℕ) :
    w.octets[i]? =
      if i < w.stop.toNat - w.start.toNat then some (w.memory (w.start + UInt64.ofNat i))
      else none := by
  rw [octets, List.getElem?_map]
  split
  · next hi => rw [List.getElem?_range hi, Option.map_some]
  · next hi => rw [List.getElem?_eq_none (by simpa using hi), Option.map_none]

/-- An access whose end does not wrap is granted exactly if it lies inside. -/
lemma contains_iff (hends : w.start ≤ w.stop) (hroom : w.start.toNat + (offset + n) < 2 ^ 64) :
    w.contains offset n = true ↔ offset + n ≤ w.octets.length := by
  have hends' : w.start.toNat ≤ w.stop.toNat := UInt64.le_iff_toNat_le.1 hends
  have hend : (w.start + UInt64.ofNat offset + UInt64.ofNat n).toNat =
      w.start.toNat + offset + n := toNat_address hroom
  rw [contains, decide_eq_true_eq, UInt64.le_iff_toNat_le, hend, length_octets]
  omega

/-- Such an access touches no address outside. -/
lemma not_strays (hends : w.start ≤ w.stop) (hroom : w.start.toNat + (offset + n) < 2 ^ 64) :
    ¬w.Strays offset n := by
  rintro ⟨hcontains, hstray⟩
  have hle := (contains_iff hends hroom).1 hcontains
  rw [length_octets] at hle
  refine hstray fun i hi => ?_
  rw [covers_iff, toNat_address (by omega)]
  omega

/-! ### Loads and stores -/

lemma load_eq (hends : w.start ≤ w.stop) (hroom : w.start.toNat + (offset + n) < 2 ^ 64) :
    Access.load w offset n = w.octets.load offset n := by
  by_cases hle : offset + n ≤ w.octets.length
  · obtain ⟨v, hv⟩ := Octets.exists_load hle
    rw [hv]
    refine (if_pos ((contains_iff hends hroom).2 hle)).trans (congrArg some ?_)
    ext i hi
    have hoctet := Octets.getElem?_of_load hv hi
    rw [length_octets] at hle
    rw [getElem?_octets, if_pos (by omega), Option.some_inj] at hoctet
    have haddress : w.address offset i = w.start + UInt64.ofNat (offset + i) := by
      rw [address, UInt64.add_assoc, ← UInt64.ofNat_add]
    rw [Vector.getElem_ofFn, haddress, hoctet]
  · have hrefused : w.octets.load offset n = none := dif_neg hle
    rw [hrefused]
    exact if_neg fun hcontains => hle ((contains_iff hends hroom).1 hcontains)

/-- The window after `n` octets were stored at an offset. -/
def stored (w : Window) (offset : ℕ) (v : Vector UInt8 n) : Window :=
  { w with memory := poke w.memory (w.start + UInt64.ofNat offset) v }

lemma store_eq (hends : w.start ≤ w.stop) (hroom : w.start.toNat + (offset + n) < 2 ^ 64)
    (v : Vector UInt8 n) :
    Access.store w offset v =
      if offset + n ≤ w.octets.length then some (w.stored offset v) else none := by
  by_cases hle : offset + n ≤ w.octets.length
  · rw [if_pos hle]
    exact if_pos ((contains_iff hends hroom).2 hle)
  · rw [if_neg hle]
    exact if_neg fun hcontains => hle ((contains_iff hends hroom).1 hcontains)

/-- The distance of an address from the first one that a store writes. -/
lemma toNat_sub_first (a : UInt64) (hroom : w.start.toNat + offset < 2 ^ 64) :
    (a - (w.start + UInt64.ofNat offset)).toNat =
      if w.start.toNat + offset ≤ a.toNat then a.toNat - (w.start.toNat + offset)
      else a.toNat + 2 ^ 64 - (w.start.toNat + offset) := by
  have ha := a.toNat_lt
  rw [UInt64.toNat_sub, toNat_add_ofNat hroom]
  split <;> omega

lemma octets_stored (hroom : w.start.toNat + (offset + n) < 2 ^ 64) (v : Vector UInt8 n) :
    (w.stored offset v).octets = w.octets.overwrite offset v := by
  apply List.ext_getElem?
  intro i
  have hstored : (w.stored offset v).octets[i]? =
      if i < w.stop.toNat - w.start.toNat then
        some (poke w.memory (w.start + UInt64.ofNat offset) v (w.start + UInt64.ofNat i))
      else none := getElem?_octets i
  rw [hstored, Octets.getElem?_overwrite, getElem?_octets]
  by_cases hi : i < w.stop.toNat - w.start.toNat
  · -- an index inside the window has an address that does not wrap
    have hstop := w.stop.toNat_lt
    have ha : (w.start + UInt64.ofNat i).toNat = w.start.toNat + i := toNat_add_ofNat (by omega)
    have hfirst : w.start.toNat + offset < 2 ^ 64 := by omega
    have hdistance := toNat_sub_first (w.start + UInt64.ofNat i) hfirst
    rw [ha] at hdistance
    rw [if_pos hi, if_pos hi, poke]
    by_cases hwritten : offset ≤ i ∧ i < offset + n
    · rw [if_pos (by omega)] at hdistance
      have hindex : w.start.toNat + i - (w.start.toNat + offset) = i - offset := by omega
      rw [hindex] at hdistance
      rw [dif_pos hwritten, dif_pos (by omega)]
      simp only [hdistance, Option.map_some]
    · rw [dif_neg hwritten, dif_neg]
      rw [hdistance]
      split <;> omega
  · rw [if_neg hi, if_neg hi]
    split <;> rfl

/-- A store that lies inside changes no octet outside. -/
lemma memory_stored_of_not_covers (hroom : w.start.toNat + (offset + n) < 2 ^ 64)
    (v : Vector UInt8 n) (hle : offset + n ≤ w.octets.length) {a : UInt64} (ha : ¬w.Covers a) :
    (w.stored offset v).memory a = w.memory a := by
  have hfirst : w.start.toNat + offset < 2 ^ 64 := by omega
  have hdistance := toNat_sub_first a hfirst
  rw [covers_iff] at ha
  rw [length_octets] at hle
  simp only [stored, poke]
  rw [dif_neg]
  rw [hdistance]
  have := a.toNat_lt
  split <;> omega

end Window

/-! ### Watched windows -/

/-- A window that somebody watches: an access that strays is answered by the watcher, who may grant
or refuse it and return or leave behind anything. -/
structure Watched where
  window : Window
  strayLoad : (offset n : ℕ) → Option (Vector UInt8 n)
  strayStore : {n : ℕ} → (offset : ℕ) → Vector UInt8 n → Option Window

instance : Access Watched where
  length g := Access.length g.window
  load g offset n :=
    if g.window.Strays offset n then g.strayLoad offset n else Access.load g.window offset n
  store {n} g offset v :=
    (if g.window.Strays offset n then g.strayStore offset v
      else Access.store g.window offset v).map fun window => { g with window }

end VoiceSteering.Frame
