/-
# Octets in hexadecimal

The reader takes exactly the pairs of hexadecimal digits, each for the number that it writes in base
sixteen, and lowercasing a pair gives the text that its octet is written with.
-/
import Mathlib.Data.Bool.AllAny
import Mathlib.Data.List.Basic
import Mathlib.Tactic.Common
import VoiceSteering.Text.Hex

namespace VoiceSteering.Text

/-- The hexadecimal digits in the order of their values. -/
def hexDigits : List Char := "0123456789abcdef".toList

/-- The value of a hexadecimal digit: the place of its lowercase form. -/
def hexPlace (c : Char) : ℕ := hexDigits.idxOf c.toLower

/-- The number that hexadecimal digits write. -/
def hexNumber (digits : List Char) : ℕ := digits.foldl (fun n c => 16 * n + hexPlace c) 0

/-- Two hexadecimal digits. -/
def IsHexPair (piece : List Char) : Prop := piece.length = 2 ∧ ∀ c ∈ piece, c.isHexDigit = true

/-! ### Digits -/

/-- All hexadecimal digits of either case. -/
def allHexDigits : List Char := "0123456789abcdefABCDEF".toList

lemma toNat_lt_of_isHexDigit {c : Char} (hc : c.isHexDigit = true) : c.toNat < 103 := by
  simp only [Char.isHexDigit, Char.isDigit, Bool.or_eq_true, Bool.and_eq_true, decide_eq_true_eq,
    ge_iff_le, UInt32.le_iff_toNat_le] at hc
  have hnine : '9'.val.toNat = 57 := rfl
  have hsmall : 'f'.val.toNat = 102 := rfl
  have hlarge : 'F'.val.toNat = 70 := rfl
  change c.val.toNat < 103
  omega

lemma isHexDigit_iff_mem {c : Char} : c.isHexDigit = true ↔ c ∈ allHexDigits := by
  constructor
  · have hcode : ∀ n < 103, (Char.ofNat n).isHexDigit = true → Char.ofNat n ∈ allHexDigits := by
      decide
    intro hc
    have hmem := hcode c.toNat (toNat_lt_of_isHexDigit hc)
    rw [Char.ofNat_toNat] at hmem
    exact hmem hc
  · have hdigits : ∀ d ∈ allHexDigits, d.isHexDigit = true := List.all_iff_forall_prop.1 (by decide)
    exact hdigits c

/-- The digits are read as the numbers that they write, and lowercasing gives the digit written. -/
lemma hexValue?_of_mem : ∀ c ∈ allHexDigits,
    hexValue? c = some (UInt8.ofNat (hexPlace c)) ∧ hexPlace c < 16 ∧
      hexDigit (hexPlace c) = c.toLower :=
  List.all_iff_forall_prop.1 (by decide)

lemma hexDigit_of_lt : ∀ n < 16, hexDigit n ∈ allHexDigits ∧ hexPlace (hexDigit n) = n := by
  decide

/-- Nothing else is read as a digit. -/
lemma isHexDigit_of_hexValue? {c : Char} {v : UInt8} (hv : hexValue? c = some v) :
    c.isHexDigit = true := by
  simp only [hexValue?, Char.le_def] at hv
  simp only [Char.isHexDigit, Char.isDigit, Bool.or_eq_true, Bool.and_eq_true, decide_eq_true_eq,
    ge_iff_le]
  split_ifs at hv with hdigit hsmall hlarge
  · exact .inl (.inl hdigit)
  · exact .inl (.inr hsmall)
  · exact .inr hlarge

/-! ### Pairs of digits -/

lemma isHexPair_iff {piece : List Char} :
    IsHexPair piece ↔ ∃ high ∈ allHexDigits, ∃ low ∈ allHexDigits, piece = [high, low] := by
  constructor
  · rintro ⟨hlength, hdigits⟩
    obtain ⟨high, low, rfl⟩ := List.length_eq_two.1 hlength
    exact ⟨high, isHexDigit_iff_mem.1 (hdigits high (by simp)), low,
      isHexDigit_iff_mem.1 (hdigits low (by simp)), rfl⟩
  · rintro ⟨high, hhigh, low, hlow, rfl⟩
    refine ⟨rfl, fun c hc => isHexDigit_iff_mem.2 ?_⟩
    rcases List.mem_cons.1 hc with rfl | hc
    · exact hhigh
    · rwa [List.mem_singleton.1 hc]

/-- A pair of digits writes an octet. -/
lemma hexNumber_lt {piece : List Char} (hpair : IsHexPair piece) : hexNumber piece < 256 := by
  obtain ⟨high, hhigh, low, hlow, rfl⟩ := isHexPair_iff.1 hpair
  obtain ⟨-, hhigh', -⟩ := hexValue?_of_mem high hhigh
  obtain ⟨-, hlow', -⟩ := hexValue?_of_mem low hlow
  simp only [hexNumber, List.foldl_cons, List.foldl_nil]
  omega

lemma octet?_of_isHexPair {piece : List Char} (hpair : IsHexPair piece) :
    octet? piece = some (UInt8.ofNat (hexNumber piece)) := by
  obtain ⟨high, hhigh, low, hlow, rfl⟩ := isHexPair_iff.1 hpair
  have hbase : (16 : UInt8).toNat = 16 := rfl
  simp only [octet?, (hexValue?_of_mem high hhigh).1, (hexValue?_of_mem low hlow).1, Option.some_inj,
    hexNumber, List.foldl_cons, List.foldl_nil, ← UInt8.toNat_inj, UInt8.toNat_add, UInt8.toNat_mul,
    UInt8.toNat_ofNat', hbase]
  omega

lemma isHexPair_of_octet? {piece : List Char} {b : UInt8} (hb : octet? piece = some b) :
    IsHexPair piece := by
  rcases piece with _ | ⟨high, _ | ⟨low, _ | ⟨c, more⟩⟩⟩
  · exact absurd hb (by simp [octet?])
  · exact absurd hb (by simp [octet?])
  · refine isHexPair_iff.2 ⟨high, isHexDigit_iff_mem.1 ?_, low, isHexDigit_iff_mem.1 ?_, rfl⟩
    · cases hhigh : hexValue? high with
      | none => exact absurd hb (by simp [octet?, hhigh])
      | some v => exact isHexDigit_of_hexValue? hhigh
    · cases hlow : hexValue? low with
      | none => exact absurd hb (by simp [octet?, hlow])
      | some v => exact isHexDigit_of_hexValue? hlow
  · exact absurd hb (by simp [octet?])

/-- **An octet is read from the pairs of hexadecimal digits that write it, and from nothing else.** -/
lemma octet?_eq_some_iff {piece : List Char} {b : UInt8} :
    octet? piece = some b ↔ IsHexPair piece ∧ b.toNat = hexNumber piece := by
  have hnumber : IsHexPair piece → (octet? piece = some b ↔ b.toNat = hexNumber piece) := by
    intro hpair
    rw [octet?_of_isHexPair hpair, Option.some_inj, ← UInt8.toNat_inj, UInt8.toNat_ofNat',
      Nat.mod_eq_of_lt (hexNumber_lt hpair), eq_comm]
  constructor
  · intro hb
    have hpair := isHexPair_of_octet? hb
    exact ⟨hpair, (hnumber hpair).1 hb⟩
  · rintro ⟨hpair, hb⟩
    exact (hnumber hpair).2 hb

lemma octetText_eq_map_toLower {piece : List Char} {b : UInt8} (hpair : IsHexPair piece)
    (hb : b.toNat = hexNumber piece) : octetText b = piece.map Char.toLower := by
  obtain ⟨high, hhigh, low, hlow, rfl⟩ := isHexPair_iff.1 hpair
  obtain ⟨-, hhigh', hhigh''⟩ := hexValue?_of_mem high hhigh
  obtain ⟨-, hlow', hlow''⟩ := hexValue?_of_mem low hlow
  simp only [hexNumber, List.foldl_cons, List.foldl_nil] at hb
  have hquot : b.toNat / 16 = hexPlace high := by omega
  have hrem : b.toNat % 16 = hexPlace low := by omega
  rw [octetText, hquot, hrem, hhigh'', hlow'']
  rfl

lemma isHexPair_octetText (b : UInt8) : IsHexPair (octetText b) := by
  have hlt := b.toNat_lt
  exact isHexPair_iff.2 ⟨_, (hexDigit_of_lt (b.toNat / 16) (by omega)).1, _,
    (hexDigit_of_lt (b.toNat % 16) (by omega)).1, rfl⟩

lemma hexNumber_octetText (b : UInt8) : hexNumber (octetText b) = b.toNat := by
  have hlt := b.toNat_lt
  simp only [octetText, hexNumber, List.foldl_cons, List.foldl_nil,
    (hexDigit_of_lt (b.toNat / 16) (by omega)).2, (hexDigit_of_lt (b.toNat % 16) (by omega)).2]
  omega

@[simp] lemma octet?_octetText (b : UInt8) : octet? (octetText b) = some b :=
  octet?_eq_some_iff.2 ⟨isHexPair_octetText b, (hexNumber_octetText b).symm⟩

end VoiceSteering.Text
