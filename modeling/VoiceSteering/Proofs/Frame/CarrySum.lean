/-
# One's-complement sums

The internet checksum of a text (RFC 1071) is defined here from the text alone: the 16-bit words
are added up, an odd last octet being padded with zero, what overflows 16 bits is added at the low
end until nothing overflows, and the result is complemented.  A text that contains its checksum is
valid when its own folded sum is `0xffff`.

A folded sum is the sum modulo 65535, except that a positive sum never folds to zero.  So the two
zeros of one's-complement arithmetic are told apart by positivity alone, and every statement about
checksums becomes one about remainders.  The incremental update of `Frame.adjustChecksum` is
described in the same terms.
-/
import Mathlib.Tactic.Common
import Mathlib.Tactic.Linarith
import VoiceSteering.Frame.Checksum
import VoiceSteering.Proofs.Frame.Octets

namespace VoiceSteering.Frame

/-! ### Definitions -/

/-- The sum of the big-endian 16-bit words of a text.  An odd last octet is the high half of a word
whose low half is zero. -/
def wordSum : Octets → ℕ
  | [] => 0
  | [a] => a.toNat * 256
  | a :: b :: rest => a.toNat * 256 + b.toNat + wordSum rest

/-- The sum with its carries added at the low end until it fits into 16 bits. -/
def carryFold (sum : ℕ) : ℕ :=
  if sum < 65536 then sum else carryFold (foldCarry sum)
termination_by sum
decreasing_by
  simp only [foldCarry]
  omega

/-- The checksum of a text with a given word sum. -/
def checksumOf (sum : ℕ) : UInt16 := UInt16.ofNat (65535 - carryFold sum)

/-! ### Folded sums are remainders -/

lemma carryFold_lt (sum : ℕ) : carryFold sum < 65536 := by
  fun_induction carryFold sum with
  | case1 sum h => exact h
  | case2 sum h ih => exact ih

lemma carryFold_mod (sum : ℕ) : carryFold sum % 65535 = sum % 65535 := by
  fun_induction carryFold sum with
  | case1 sum h => rfl
  | case2 sum h ih =>
    rw [ih]
    simp only [foldCarry]
    omega

lemma carryFold_pos {sum : ℕ} (h : 0 < sum) : 0 < carryFold sum := by
  fun_induction carryFold sum with
  | case1 sum hlt => exact h
  | case2 sum hlt ih =>
    apply ih
    simp only [foldCarry]
    omega

/-- A positive sum folds to `0xffff` exactly when it is a multiple of `0xffff`. -/
lemma carryFold_eq_max_iff {sum : ℕ} (h : 0 < sum) :
    carryFold sum = 65535 ↔ sum % 65535 = 0 := by
  have hlt := carryFold_lt sum
  have hmod := carryFold_mod sum
  have hpos := carryFold_pos h
  omega

/-- The checksum of a positive sum is the remainder that makes the sum a multiple of `0xffff`, and
of the two representatives of zero it is `0x0000`. -/
lemma toNat_checksumOf {sum : ℕ} (h : 0 < sum) :
    (checksumOf sum).toNat < 65535 ∧ (sum + (checksumOf sum).toNat) % 65535 = 0 := by
  have hlt := carryFold_lt sum
  have hmod := carryFold_mod sum
  have hpos := carryFold_pos h
  have hnat : (checksumOf sum).toNat = 65535 - carryFold sum := by
    rw [checksumOf, UInt16.toNat_ofNat']
    omega
  rw [hnat]
  constructor <;> omega

/-- A word is the checksum of a positive sum once it completes the sum and is not `0xffff`. -/
lemma eq_checksumOf {sum : ℕ} {w : UInt16} (h : 0 < sum) (hw : w.toNat < 65535)
    (hmod : (sum + w.toNat) % 65535 = 0) : w = checksumOf sum := by
  obtain ⟨hlt, hsum⟩ := toNat_checksumOf h
  apply UInt16.toNat_inj.1
  omega

/-! ### The incremental update -/

/-- The sum of the two 16-bit words of a 32-bit field. -/
def halfSum (v : Vector UInt8 4) : ℕ := (halves v).1.toNat + (halves v).2.toNat

/-- The sum that the update folds: the old words are subtracted by adding their complements. -/
def adjustedSum (checksum : UInt16) (old new : Vector UInt8 4) : ℕ :=
  (65535 - checksum.toNat) + (65535 - (halves old).1.toNat) + (65535 - (halves old).2.toNat)
    + (halves new).1.toNat + (halves new).2.toNat

/-- Two foldings are enough for the sum of five words. -/
lemma foldCarry_foldCarry {sum : ℕ} (h : sum ≤ 5 * 65535) :
    foldCarry (foldCarry sum) = carryFold sum := by
  have hlt : foldCarry (foldCarry sum) < 65536 := by
    simp only [foldCarry]
    omega
  have hmod : foldCarry (foldCarry sum) % 65535 = sum % 65535 := by
    simp only [foldCarry]
    omega
  have hmod' := carryFold_mod sum
  have hlt' := carryFold_lt sum
  -- a word is known by its remainder and by whether it is zero
  rcases Nat.eq_zero_or_pos sum with rfl | hpos
  · simp [carryFold, foldCarry]
  · have hpos' := carryFold_pos hpos
    have hfold : 0 < foldCarry (foldCarry sum) := by
      simp only [foldCarry]
      omega
    omega

lemma adjustChecksum_eq_checksumOf (checksum : UInt16) (old new : Vector UInt8 4) :
    adjustChecksum checksum old new = checksumOf (adjustedSum checksum old new) := by
  have hle : adjustedSum checksum old new ≤ 5 * 65535 := by
    have hn₁ := (halves new).1.toNat_lt
    have hn₂ := (halves new).2.toNat_lt
    simp only [adjustedSum]
    omega
  have hlt := carryFold_lt (adjustedSum checksum old new)
  rw [checksumOf, ← foldCarry_foldCarry hle, ← Nat.mod_eq_of_lt (a := foldCarry _) (b := 65536)]
  · rfl
  · rwa [foldCarry_foldCarry hle]

/-- The update adds the old words of the field to the checksum and takes the new ones off, modulo
`0xffff`.  It never yields `0xffff` when the new field is not zero. -/
lemma adjustChecksum_spec (checksum : UInt16) (old : Vector UInt8 4) {new : Vector UInt8 4}
    (h : 0 < halfSum new) :
    (adjustChecksum checksum old new).toNat < 65535 ∧
      ((adjustChecksum checksum old new).toNat + halfSum new) % 65535 =
        (checksum.toNat + halfSum old) % 65535 := by
  have hc := checksum.toNat_lt
  have ho₁ := (halves old).1.toNat_lt
  have ho₂ := (halves old).2.toNat_lt
  simp only [halfSum] at h ⊢
  have hpos : 0 < adjustedSum checksum old new := by
    simp only [adjustedSum]
    omega
  obtain ⟨hlt, hmod⟩ := toNat_checksumOf hpos
  rw [adjustChecksum_eq_checksumOf]
  refine ⟨hlt, ?_⟩
  simp only [adjustedSum] at hmod ⊢
  omega

/-- Replacing a field by itself keeps the checksum, except that of the two representatives of zero it
leaves `0x0000`. -/
lemma adjustChecksum_self (checksum : UInt16) {field : Vector UInt8 4} (h : 0 < halfSum field) :
    adjustChecksum checksum field field = if checksum = 0xffff then 0 else checksum := by
  have hlt := checksum.toNat_lt
  obtain ⟨hadjusted, hmod⟩ := adjustChecksum_spec checksum field h
  have hmax : checksum = 0xffff ↔ checksum.toNat = 65535 := UInt16.toNat_inj.symm
  apply UInt16.toNat_inj.1
  split
  · next heq =>
    rw [hmax] at heq
    show _ = 0
    omega
  · next hne =>
    rw [hmax] at hne
    omega

/-- An adjusted checksum does not change when the new field is replaced by itself. -/
lemma adjustChecksum_adjustChecksum (checksum : UInt16) (old : Vector UInt8 4)
    {new : Vector UInt8 4} (h : 0 < halfSum new) :
    adjustChecksum (adjustChecksum checksum old new) new new = adjustChecksum checksum old new := by
  obtain ⟨hlt, -⟩ := adjustChecksum_spec checksum old h
  rw [adjustChecksum_self _ h, if_neg]
  intro hmax
  rw [hmax] at hlt
  exact absurd hlt (by decide)

lemma halfSum_octets32 (w : UInt32) :
    halfSum (octets32 w) = w.toNat / 65536 + w.toNat % 65536 := by
  have hlt := w.toNat_lt
  simp only [halfSum, halves, toNat_word16, octets32]
  simp
  omega

/-! ### A text that contains its checksum

The sum of such a text is split into the checksum, a 32-bit field and a rest that does not
change. -/

/-- Validity survives a change of the field together with the update of the checksum. -/
lemma carryFold_eq_max_iff_of_adjusted {rest checksum field checksum' field' : ℕ}
    (hpos : 0 < rest)
    (hmod : (checksum' + field') % 65535 = (checksum + field) % 65535) :
    carryFold (rest + checksum' + field') = 65535 ↔
      carryFold (rest + checksum + field) = 65535 := by
  rw [carryFold_eq_max_iff (by omega), carryFold_eq_max_iff (by omega)]
  omega

/-- In a valid text a checksum other than `0xffff` is what the rest of the text demands. -/
lemma eq_checksumOf_of_valid {rest field : ℕ} {checksum : UInt16} (hpos : 0 < rest)
    (hlt : checksum.toNat < 65535)
    (hvalid : carryFold (rest + checksum.toNat + field) = 65535) :
    checksum = checksumOf (rest + field) := by
  rw [carryFold_eq_max_iff (by omega)] at hvalid
  exact eq_checksumOf (by omega) hlt (by omega)

/-! ### Word sums of parts of a text -/

@[simp] lemma wordSum_nil : wordSum [] = 0 := rfl

lemma wordSum_cons_cons (a b : UInt8) (rest : Octets) :
    wordSum (a :: b :: rest) = a.toNat * 256 + b.toNat + wordSum rest := rfl

/-- The words of a text of even length are not disturbed by what follows. -/
lemma wordSum_append {xs : Octets} (ys : Octets) (h : xs.length % 2 = 0) :
    wordSum (xs ++ ys) = wordSum xs + wordSum ys := by
  fun_induction wordSum xs with
  | case1 => simp
  | case2 a => simp at h
  | case3 a b rest ih =>
    have hrest : rest.length % 2 = 0 := by
      simp only [List.length_cons] at h
      omega
    rw [List.cons_append, List.cons_append, wordSum_cons_cons, ih hrest]
    omega

lemma wordSum_pos {xs : Octets} {a : UInt8} (hhead : xs[0]? = some a) (ha : 0 < a.toNat) :
    0 < wordSum xs := by
  match xs, hhead with
  | [b], hhead =>
    obtain rfl : b = a := by simpa using hhead
    simp only [wordSum]
    omega
  | b :: c :: rest, hhead =>
    obtain rfl : b = a := by simpa using hhead
    rw [wordSum_cons_cons]
    omega

lemma wordSum_toList_two (v : Vector UInt8 2) : wordSum v.toList = (word16Of v).toNat := by
  have hlist : v.toList = [v[0], v[1]] := by
    apply List.ext_getElem?
    intro i
    rcases i with _ | _ | i <;> simp
  rw [hlist, wordSum_cons_cons, wordSum_nil, word16Of, toNat_word16, Nat.add_zero]

lemma wordSum_toList_four (v : Vector UInt8 4) : wordSum v.toList = halfSum v := by
  have hlist : v.toList = [v[0], v[1], v[2], v[3]] := by
    apply List.ext_getElem?
    intro i
    rcases i with _ | _ | _ | _ | i <;> simp
  rw [hlist, wordSum_cons_cons, wordSum_cons_cons, wordSum_nil, halfSum, halves, toNat_word16,
    toNat_word16, Nat.add_zero]

lemma wordSum_slice_add {frame : Octets} (start middle stop : ℕ) (h₁ : start ≤ middle)
    (h₂ : middle ≤ stop) (hle : middle ≤ frame.length) (heven : (middle - start) % 2 = 0) :
    wordSum (frame.slice start stop) =
      wordSum (frame.slice start middle) + wordSum (frame.slice middle stop) := by
  rw [← Octets.slice_append h₁ h₂ hle, wordSum_append]
  rw [Octets.length_slice]
  omega

/-- A 16-bit word at an even place in a slice is one summand of its sum. -/
lemma wordSum_slice_word {frame : Octets} {start offset stop : ℕ} {v : Vector UInt8 2}
    (hload : frame.load offset 2 = some v) (h₁ : start ≤ offset) (h₂ : offset + 2 ≤ stop)
    (heven : (offset - start) % 2 = 0) :
    wordSum (frame.slice start stop) = wordSum (frame.slice start offset) +
      (word16Of v).toNat + wordSum (frame.slice (offset + 2) stop) := by
  have hle := Octets.le_length_of_load hload
  rw [wordSum_slice_add start offset stop h₁ (by omega) (by omega) heven,
    wordSum_slice_add offset (offset + 2) stop (by omega) h₂ hle (by omega),
    Octets.slice_eq_of_load hload, wordSum_toList_two, Nat.add_assoc]

end VoiceSteering.Frame
