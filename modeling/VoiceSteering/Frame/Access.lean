/-
# Access to frames

The packet pipeline never touches the octets of a frame directly.  It asks for a few octets at an
offset and is refused where they do not fit, and it overwrites a few octets and is refused in the
same way.  This file says what such an accessor is and gives three of them:

* a list of octets, which refuses exactly what lies outside;
* a `Guarded` frame, which refuses besides every access that starts at one of certain offsets;
* a `Window` of memory between two addresses, which compares machine addresses before each access.
-/

namespace VoiceSteering.Frame

/-- What the pipeline may ask of a received frame.  A refused store changes nothing, so it returns
no new frame. -/
class Access (φ : Type) where
  /-- How many octets the frame has. -/
  length : φ → Nat
  /-- The `n` octets from an offset on, if they fit. -/
  load : φ → (offset n : Nat) → Option (Vector UInt8 n)
  /-- The frame with `n` octets overwritten from an offset on, if they fit. -/
  store : {n : Nat} → φ → (offset : Nat) → Vector UInt8 n → Option φ

/-! ## Octets in a list -/

/-- A frame as the list of its octets. -/
abbrev Octets := List UInt8

namespace Octets

/-- The `n` octets from an offset on, if all of them lie inside. -/
def load (frame : Octets) (offset n : Nat) : Option (Vector UInt8 n) :=
  if h : offset + n ≤ frame.length then
    some (Vector.ofFn fun i => frame[offset + i.val])
  else none

/-- The octets with those from an offset on replaced. -/
def overwrite {n : Nat} (frame : Octets) (offset : Nat) (v : Vector UInt8 n) : Octets :=
  frame.mapIdx fun i b =>
    if h : offset ≤ i ∧ i < offset + n then v[i - offset] else b

/-- The frame after a store that lies inside. -/
def store {n : Nat} (frame : Octets) (offset : Nat) (v : Vector UInt8 n) : Option Octets :=
  if offset + n ≤ frame.length then some (frame.overwrite offset v) else none

@[simp] theorem length_overwrite {n : Nat} (frame : Octets) (offset : Nat) (v : Vector UInt8 n) :
    (frame.overwrite offset v).length = frame.length := by
  simp [overwrite]

theorem getElem?_overwrite {n : Nat} (frame : Octets) (offset : Nat) (v : Vector UInt8 n)
    (i : Nat) :
    (frame.overwrite offset v)[i]? =
      if h : offset ≤ i ∧ i < offset + n then frame[i]?.map fun _ => v[i - offset]
      else frame[i]? := by
  rw [overwrite, List.getElem?_mapIdx]
  by_cases h : offset ≤ i ∧ i < offset + n
  · simp only [dif_pos h]
  · simp only [dif_neg h, Option.map_id_fun', id_eq]

end Octets

instance : Access Octets where
  length := List.length
  load := Octets.load
  store := Octets.store

/-! ## Frames with refused offsets -/

/-- A frame that refuses, besides what its own accessor refuses, every load and every store that
starts at certain offsets. -/
structure Guarded (φ : Type) where
  frame : φ
  refusesLoad : Nat → Bool
  refusesStore : Nat → Bool

instance {φ : Type} [Access φ] : Access (Guarded φ) where
  length g := Access.length g.frame
  load g offset n := if g.refusesLoad offset then none else Access.load g.frame offset n
  store g offset v :=
    if g.refusesStore offset then none
    else (Access.store g.frame offset v).map fun frame => { g with frame }

/-! ## Windows of memory -/

/-- A frame that lies in memory from the address `start` up to, but not including, `stop`.  The
address of an access is computed with wrapping words and its end is compared with `stop`. -/
structure Window where
  memory : UInt64 → UInt8
  start : UInt64
  stop : UInt64

namespace Window

/-- Whether the end of an access passes the comparison with the end of the window. -/
def contains (w : Window) (offset n : Nat) : Bool :=
  w.start + UInt64.ofNat offset + UInt64.ofNat n ≤ w.stop

/-- The `i`-th address that an access at an offset touches. -/
def address (w : Window) (offset i : Nat) : UInt64 :=
  w.start + UInt64.ofNat offset + UInt64.ofNat i

/-- The octets between the two ends. -/
def octets (w : Window) : Octets :=
  (List.range (w.stop.toNat - w.start.toNat)).map fun i => w.memory (w.start + UInt64.ofNat i)

/-- Writes a few octets from an address on. -/
def poke {n : Nat} (memory : UInt64 → UInt8) (first : UInt64) (v : Vector UInt8 n) :
    UInt64 → UInt8 := fun a =>
  if h : (a - first).toNat < n then v[(a - first).toNat] else memory a

end Window

instance : Access Window where
  length w := w.stop.toNat - w.start.toNat
  load w offset n :=
    if w.contains offset n then some (Vector.ofFn fun i => w.memory (w.address offset i)) else none
  store w offset v :=
    if w.contains offset v.size then
      some { w with memory := Window.poke w.memory (w.start + UInt64.ofNat offset) v }
    else none

end VoiceSteering.Frame
