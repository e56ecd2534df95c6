/-
# The texts of link-layer addresses

A text is read as a link-layer address exactly if what is left of it without blank ends has six
pieces between separators, each of them a pair of hexadecimal digits; the pairs are the octets.
Written again, the address shows the same text in lowercase and with colons.  What is written is
always read back.
-/
import VoiceSteering.Net.Mac
import VoiceSteering.Proofs.Text.Hex
import VoiceSteering.Proofs.Text.Pieces

namespace VoiceSteering.Mac

open Text (IsHexPair hexNumber octet? octetText)

/-! ### Pieces -/

lemma pieces_eq_splitOnP (text : List Char) : pieces text = text.splitOnP isSeparator := by
  refine Text.eq_splitOnP rfl (fun c rest hc => ?_) (fun c rest piece more hc hrest => ?_) text
  · rw [pieces, if_pos hc]
  · rw [pieces, if_neg (Bool.eq_false_iff.1 hc), hrest]

/-- One piece gives the first octet, and the pieces after it give the others. -/
lemma readOctets_cons_eq_ok_iff {text : String} {n : ℕ} {piece : List Char}
    {more : List (List Char)} {b : UInt8} {bs : List UInt8} (hbs : (b :: bs).length = n + 1) :
    readOctets text (n + 1) (piece :: more) = .ok ⟨b :: bs, hbs⟩ ↔
      octet? piece = some b ∧ readOctets text n more = .ok ⟨bs, Nat.succ.inj hbs⟩ := by
  cases hpiece : octet? piece with
  | none => simp [readOctets, hpiece]
  | some b' =>
    cases hmore : readOctets text n more with
    | error e => simp [readOctets, hpiece, hmore]
    | ok bs' => simp [readOctets, hpiece, hmore, Subtype.ext_iff]

/-- As many octets are read as there are pieces. -/
lemma readOctets_eq_ok_iff (text : String) {n : ℕ} (pieces : List (List Char)) {bs : List UInt8}
    (hbs : bs.length = n) :
    readOctets text n pieces = .ok ⟨bs, hbs⟩ ↔ pieces.map octet? = bs.map some := by
  -- too few and too many pieces are errors on the left and lists of different lengths on the right
  induction n generalizing pieces bs with
  | zero =>
    obtain rfl := List.length_eq_zero_iff.1 hbs
    cases pieces with
    | nil => simp [readOctets]
    | cons piece more => simp [readOctets]
  | succ n ih =>
    obtain ⟨b, bs, rfl⟩ := List.exists_cons_of_length_eq_add_one hbs
    cases pieces with
    | nil => simp [readOctets]
    | cons piece more =>
      rw [readOctets_cons_eq_ok_iff, ih, List.map_cons, List.map_cons, List.cons.injEq]

/-- An address is read from the octets of its pieces. -/
lemma read_eq_ok_iff {text : String} {m : Mac} :
    Mac.read text = .ok m ↔
      ((Text.strip text.toList).splitOnP isSeparator).map octet? = m.octets.toList.map some := by
  rw [← readOctets_eq_ok_iff text _ m.octets.length_toList, Mac.read, pieces_eq_splitOnP]
  cases readOctets text 6 ((Text.strip text.toList).splitOnP isSeparator) with
  | error e => simp
  | ok bs =>
    obtain ⟨bs, hbs⟩ := bs
    obtain ⟨octets⟩ := m
    simp only [Except.ok.injEq, Mac.mk.injEq, Subtype.mk.injEq]
    constructor
    · rintro rfl
      rfl
    · rintro rfl
      rfl

/-! ### Pairs of digits -/

/-- Octets are read from pairs of digits, one from each. -/
lemma map_octet?_eq_iff {pieces : List (List Char)} {bs : List UInt8} :
    pieces.map octet? = bs.map some ↔
      (∀ piece ∈ pieces, IsHexPair piece) ∧ bs.map UInt8.toNat = pieces.map hexNumber := by
  induction pieces generalizing bs with
  | nil =>
    cases bs with
    | nil => simp
    | cons b bs => simp
  | cons piece pieces ih =>
    cases bs with
    | nil => simp
    | cons b bs =>
      simp only [List.map_cons, List.cons.injEq, ih, Text.octet?_eq_some_iff, List.forall_mem_cons]
      tauto

lemma exists_map_toNat_eq {pieces : List (List Char)}
    (hpairs : ∀ piece ∈ pieces, IsHexPair piece) :
    ∃ bs : List UInt8, bs.map UInt8.toNat = pieces.map hexNumber := by
  refine ⟨pieces.map fun piece => UInt8.ofNat (hexNumber piece), ?_⟩
  rw [List.map_map]
  refine List.map_congr_left fun piece hpiece => ?_
  rw [Function.comp_apply, UInt8.toNat_ofNat',
    Nat.mod_eq_of_lt (Text.hexNumber_lt (hpairs piece hpiece))]

lemma map_octetText_eq {pieces : List (List Char)} {bs : List UInt8}
    (hpairs : ∀ piece ∈ pieces, IsHexPair piece)
    (hbs : bs.map UInt8.toNat = pieces.map hexNumber) :
    bs.map octetText = pieces.map fun piece => piece.map Char.toLower := by
  induction pieces generalizing bs with
  | nil =>
    cases bs with
    | nil => rfl
    | cons b bs => simp at hbs
  | cons piece pieces ih =>
    cases bs with
    | nil => simp at hbs
    | cons b bs =>
      obtain ⟨hpiece, hpieces⟩ := List.forall_mem_cons.1 hpairs
      obtain ⟨hb, hbs⟩ := List.cons.inj hbs
      rw [List.map_cons, List.map_cons, Text.octetText_eq_map_toLower hpiece hb, ih hpieces hbs]

/-! ### What is written -/

lemma joined_eq_intercalate (bs : List UInt8) :
    joined bs = [':'].intercalate (bs.map octetText) := by
  induction bs with
  | nil => rfl
  | cons b bs ih =>
    rcases bs with _ | ⟨next, bs⟩
    · rw [joined, List.map_singleton, List.intercalate_singleton]
    · rw [joined, ih, List.map_cons, List.map_cons, List.map_cons, List.intercalate_cons_cons,
        List.append_assoc, List.singleton_append]
      exact List.cons_ne_nil _ _

lemma toList_render (m : Mac) :
    m.render.toList = [':'].intercalate (m.octets.toList.map octetText) := by
  rw [render, String.toList_ofList, joined_eq_intercalate]

/-- A character of a written address: separators are colons and digits are lowercase. -/
def inColonForm (c : Char) : Char := if isSeparator c then ':' else c.toLower

/-- It makes no difference whether a text is put into colon form as a whole or piece by piece. -/
lemma map_inColonForm (cs : List Char) :
    cs.map inColonForm =
      [':'].intercalate ((cs.splitOnP isSeparator).map fun piece => piece.map Char.toLower) := by
  induction cs with
  | nil => rfl
  | cons c cs ih =>
    -- the first piece of the rest is what a character other than a separator is added to
    obtain ⟨piece, more, hcs⟩ := List.exists_cons_of_ne_nil (List.splitOnP_ne_nil isSeparator cs)
    cases hc : isSeparator c with
    | true =>
      rw [List.map_cons, ih, Text.splitOnP_cons_of_pos hc, hcs, inColonForm, if_pos hc]
      rfl
    | false =>
      rw [List.map_cons, ih, Text.splitOnP_cons_of_neg hc hcs, hcs, inColonForm,
        if_neg (Bool.eq_false_iff.1 hc)]
      cases more <;> rfl

lemma isSeparator_of_isHexDigit {c : Char} (hc : c.isHexDigit = true) : isSeparator c = false := by
  have hdigits : ∀ d ∈ Text.allHexDigits, isSeparator d = false :=
    List.all_iff_forall_prop.1 (by decide)
  exact hdigits c (Text.isHexDigit_iff_mem.1 hc)

lemma isBlank_of_isHexDigit {c : Char} (hc : c.isHexDigit = true) : Text.isBlank c = false := by
  have hdigits : ∀ d ∈ Text.allHexDigits, Text.isBlank d = false :=
    List.all_iff_forall_prop.1 (by decide)
  exact hdigits c (Text.isHexDigit_iff_mem.1 hc)

/-- There are no blanks in a written address. -/
lemma isBlank_of_mem_render {m : Mac} {c : Char} (hc : c ∈ m.render.toList) :
    Text.isBlank c = false := by
  rw [toList_render] at hc
  obtain rfl | ⟨piece, hpiece, hc⟩ := Text.mem_of_mem_intercalate hc
  · rfl
  · obtain ⟨b, -, rfl⟩ := List.mem_map.1 hpiece
    exact isBlank_of_isHexDigit ((Text.isHexPair_octetText b).2 c hc)

lemma splitOnP_render (m : Mac) :
    m.render.toList.splitOnP isSeparator = m.octets.toList.map octetText := by
  rw [toList_render]
  exact Text.splitOnP_intercalate_map rfl
    (fun b c hc => isSeparator_of_isHexDigit ((Text.isHexPair_octetText b).2 c hc)) m.octets

/-- **What is written is read back.** -/
lemma read_render (m : Mac) : Mac.read m.render = .ok m := by
  rw [read_eq_ok_iff, Text.strip_eq_self fun c hc => isBlank_of_mem_render hc, splitOnP_render,
    List.map_map]
  exact List.map_congr_left fun b _ => Text.octet?_octetText b

/-! ### Texts and addresses -/

/-- **The texts of link-layer addresses.**  What is left of a text without blank ends decides: it is
read if separators split it into six pairs of hexadecimal digits, which are the octets in order.  The
address is then written as the same text in lowercase and with colons, and any address is read back
from what it is written as. -/
theorem read_iff_six_pairs (text : String) :
    ∃ core, Text.Stripped text.toList core ∧
      let pieces := core.splitOnP isSeparator
      ((∃ m, Mac.read text = .ok m) ↔ pieces.length = 6 ∧ ∀ piece ∈ pieces, IsHexPair piece) ∧
      (∀ m, Mac.read text = .ok m →
        m.octets.toList.map UInt8.toNat = pieces.map hexNumber ∧
          m.render.toList = core.map inColonForm) ∧
      ∀ m, Mac.read (render m) = .ok m := by
  refine ⟨Text.strip text.toList, Text.stripped_strip _, ?_⟩
  intro pieces
  have hread : ∀ m, Mac.read text = .ok m ↔ (∀ piece ∈ pieces, IsHexPair piece) ∧
      m.octets.toList.map UInt8.toNat = pieces.map hexNumber := fun m => by
    rw [read_eq_ok_iff, map_octet?_eq_iff]
  refine ⟨⟨?_, ?_⟩, ?_, read_render⟩
  · rintro ⟨m, hm⟩
    obtain ⟨hpairs, hoctets⟩ := (hread m).1 hm
    have hlength := congrArg List.length hoctets
    rw [List.length_map, List.length_map, Vector.length_toList] at hlength
    exact ⟨hlength.symm, hpairs⟩
  · rintro ⟨hlength, hpairs⟩
    obtain ⟨bs, hbs⟩ := exists_map_toNat_eq hpairs
    have hsix : bs.length = 6 := by
      have hlengths := congrArg List.length hbs
      rwa [List.length_map, List.length_map, hlength] at hlengths
    exact ⟨⟨⟨bs.toArray, hsix⟩⟩, (hread _).2 ⟨hpairs, hbs⟩⟩
  · intro m hm
    obtain ⟨hpairs, hoctets⟩ := (hread m).1 hm
    refine ⟨hoctets, ?_⟩
    rw [toList_render, map_inColonForm, map_octetText_eq hpairs hoctets]

example : Mac.read " 02-1A:2b-3C:4d-5E\t" = .ok ⟨#v[0x02, 0x1a, 0x2b, 0x3c, 0x4d, 0x5e]⟩ := by
  decide

end VoiceSteering.Mac
