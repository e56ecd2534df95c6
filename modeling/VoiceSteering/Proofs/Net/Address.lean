/-
# The texts of addresses

An address is read back from the dotted text that it is written as.
-/
import VoiceSteering.Net.Address
import VoiceSteering.Proofs.Text.Pieces

namespace VoiceSteering.Address

lemma pieces_eq_splitOnP (text : List Char) : pieces text = text.splitOnP (· == '.') := by
  refine Text.eq_splitOnP rfl (fun c rest hc => ?_) (fun c rest piece more hc hrest => ?_) text
  · rw [pieces, if_pos (beq_iff_eq.1 hc)]
  · rw [pieces, if_neg (beq_eq_false_iff_ne.1 hc), hrest]

/-- The decimal digits of an octet are read as that octet, and no dot is among them. -/
lemma octet?_toDigits : ∀ n < 256,
    octet? (Nat.toDigits 10 n) = some n.toUInt8 ∧ '.' ∉ Nat.toDigits 10 n := by
  decide +kernel

lemma toList_render (a : Address) :
    (render a).toList = ['.'].intercalate (a.octets.toList.map fun b => Nat.toDigits 10 b.toNat) := by
  rw [render, String.toList_intercalate, List.map_map]
  refine congrArg _ (List.map_congr_left fun b _ => ?_)
  exact Nat.toList_repr

lemma pieces_render (a : Address) :
    pieces (render a).toList = a.octets.toList.map fun b => Nat.toDigits 10 b.toNat := by
  rw [pieces_eq_splitOnP, toList_render]
  refine Text.splitOnP_intercalate_map rfl (fun b c hc => ?_) a.octets
  refine beq_eq_false_iff_ne.2 ?_
  rintro rfl
  exact (octet?_toDigits b.toNat b.toNat_lt).2 hc

/-- **An address is read back from its text.** -/
lemma read?_render (a : Address) : read? (render a) = some a := by
  have hoctet : ∀ b : UInt8, octet? (Nat.toDigits 10 b.toNat) = pure b := fun b => by
    rw [(octet?_toDigits b.toNat b.toNat_lt).1, Nat.toUInt8_eq, UInt8.ofNat_toNat]
    rfl
  have hoctets : (a.octets.toList.map fun b => Nat.toDigits 10 b.toNat).mapM octet? =
      some a.octets.toList := by
    rw [List.mapM_map, Function.comp_def, funext hoctet, List.mapM_pure, List.map_id']
    rfl
  rw [read?, pieces_render, hoctets]
  exact congrArg some (ofOctets_octets a)

end VoiceSteering.Address
