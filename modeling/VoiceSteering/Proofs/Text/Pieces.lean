/-
# Stripped texts and their pieces

Two things are done to a text before its parts are read: blanks at its ends are dropped, and it is
split at separators.  `Stripped` says what the first leaves, without saying how it is found; there is
only one such text.  Splitting undoes joining if no piece contains a separator.
-/
import Mathlib.Data.List.TakeWhile
import Mathlib.Tactic.Common
import VoiceSteering.Text.Blank

namespace VoiceSteering.Text

/-! ### Texts without blank ends -/

/-- The text `core` is what is between the blanks at the ends of `text`: it neither begins nor ends
with a blank. -/
def Stripped (text core : List Char) : Prop :=
  (∃ before after, text = before ++ core ++ after ∧
      (∀ c ∈ before, isBlank c = true) ∧ ∀ c ∈ after, isBlank c = true) ∧
    (∀ c ∈ core.head?, isBlank c = false) ∧ ∀ c ∈ core.getLast?, isBlank c = false

lemma dropWhile_append_of_blank {before core : List Char} (hbefore : ∀ c ∈ before, isBlank c = true)
    (hhead : ∀ c ∈ core.head?, isBlank c = false) :
    (before ++ core).dropWhile isBlank = core := by
  rw [List.dropWhile_append_of_pos hbefore]
  cases core with
  | nil => rfl
  | cons c core => exact List.dropWhile_cons_of_neg (by simp [hhead c rfl])

/-- Stripping finds it, whatever blanks stand around it. -/
lemma Stripped.strip_eq {text core : List Char} (hcore : Stripped text core) : strip text = core := by
  obtain ⟨⟨before, after, rfl, hbefore, hafter⟩, hhead, hlast⟩ := hcore
  rcases core with _ | ⟨c, core⟩
  · have hblank : (before ++ [] ++ after).dropWhile isBlank = [] := by
      refine List.dropWhile_eq_nil_iff.2 fun c hc => ?_
      rw [List.append_nil] at hc
      exact (List.mem_append.1 hc).elim (hbefore c) (hafter c)
    rw [strip, hblank]
    rfl
  · have hfront : (before ++ (c :: core) ++ after).dropWhile isBlank = c :: core ++ after := by
      rw [List.append_assoc]
      exact dropWhile_append_of_blank hbefore fun d hd => hhead d hd
    have hback : (c :: core ++ after).reverse.dropWhile isBlank = (c :: core).reverse := by
      rw [List.reverse_append]
      refine dropWhile_append_of_blank (fun d hd => hafter d (List.mem_reverse.1 hd)) fun d hd => ?_
      rw [List.head?_reverse] at hd
      exact hlast d hd
    rw [strip, hfront, hback, List.reverse_reverse]

/-- A text without blanks is stripped already. -/
lemma strip_eq_self {text : List Char} (htext : ∀ c ∈ text, isBlank c = false) :
    strip text = text := by
  refine Stripped.strip_eq ⟨⟨[], [], by simp, by simp, by simp⟩, fun c hc => ?_, fun c hc => ?_⟩
  · exact htext c (List.mem_of_mem_head? hc)
  · exact htext c (List.mem_of_mem_getLast? hc)

lemma isBlank_head?_dropWhile (text : List Char) :
    ∀ c ∈ (text.dropWhile isBlank).head?, isBlank c = false := by
  intro c hc
  have hhead := List.head?_dropWhile_not isBlank text
  rwa [Option.mem_def.1 hc] at hhead

lemma stripped_strip (text : List Char) : Stripped text (strip text) := by
  -- the blanks behind are found from the back
  obtain ⟨rest, hrest⟩ : ∃ rest, text.dropWhile isBlank = rest := ⟨_, rfl⟩
  obtain ⟨back, hback⟩ : ∃ back, rest.reverse.dropWhile isBlank = back := ⟨_, rfl⟩
  have hstrip : strip text = back.reverse := by rw [strip, hrest, hback]
  have hsplit : rest = back.reverse ++ (rest.reverse.takeWhile isBlank).reverse := by
    rw [← List.reverse_append, ← hback, List.takeWhile_append_dropWhile, List.reverse_reverse]
  refine ⟨⟨text.takeWhile isBlank, (rest.reverse.takeWhile isBlank).reverse, ?_, ?_, ?_⟩, ?_, ?_⟩
  · rw [hstrip, List.append_assoc, ← hsplit, ← hrest, List.takeWhile_append_dropWhile]
  · exact fun c hc => List.mem_takeWhile_imp hc
  · exact fun c hc => List.mem_takeWhile_imp (List.mem_reverse.1 hc)
  · intro c hc
    refine isBlank_head?_dropWhile text c ?_
    rw [hstrip] at hc
    rw [hrest, hsplit, List.head?_append, Option.mem_def.1 hc]
    rfl
  · intro c hc
    rw [hstrip, List.getLast?_reverse, ← hback] at hc
    exact isBlank_head?_dropWhile _ c hc

/-! ### Splitting -/

section Splitting

variable {α : Type} {p : α → Bool}

lemma splitOnP_cons_of_neg {x : α} (hx : p x = false) {xs piece : List α} {more : List (List α)}
    (hxs : xs.splitOnP p = piece :: more) : (x :: xs).splitOnP p = (x :: piece) :: more := by
  rw [List.splitOnP_cons_eq_if_modifyHead, if_neg (by simp [hx]), hxs]
  rfl

lemma splitOnP_cons_of_pos {x : α} (hx : p x = true) (xs : List α) :
    (x :: xs).splitOnP p = [] :: xs.splitOnP p := by
  rw [List.splitOnP_cons_eq_if_modifyHead, if_pos hx]

/-- What cuts at every separator and nowhere else is splitting. -/
lemma eq_splitOnP {split : List α → List (List α)} (hnil : split [] = [[]])
    (hpos : ∀ x xs, p x = true → split (x :: xs) = [] :: split xs)
    (hneg : ∀ x xs piece more, p x = false → split xs = piece :: more →
      split (x :: xs) = (x :: piece) :: more) (xs : List α) : split xs = xs.splitOnP p := by
  induction xs with
  | nil => exact hnil
  | cons x xs ih =>
    cases hx : p x with
    | true => rw [hpos x xs hx, ih, splitOnP_cons_of_pos hx]
    | false =>
      obtain ⟨piece, more, hxs⟩ := List.exists_cons_of_ne_nil (List.splitOnP_ne_nil p xs)
      rw [hneg x xs piece more hx (ih.trans hxs), splitOnP_cons_of_neg hx hxs]

/-- Pieces without separators come back when they are joined by one and split. -/
lemma splitOnP_intercalate {sep : α} (hsep : p sep = true) {pieces : List (List α)}
    (hpieces : ∀ piece ∈ pieces, ∀ x ∈ piece, p x = false) (hne : pieces ≠ []) :
    ([sep].intercalate pieces).splitOnP p = pieces := by
  induction pieces with
  | nil => exact absurd rfl hne
  | cons piece pieces ih =>
    have hpiece := hpieces piece List.mem_cons_self
    rcases pieces with _ | ⟨next, pieces⟩
    · rw [List.intercalate_singleton]
      exact List.splitOnP_eq_singleton hpiece
    · rw [List.intercalate_cons_cons, List.append_assoc, List.singleton_append,
        List.splitOnP_append_cons_of_forall_mem hpiece sep hsep,
        ih (fun q hq => hpieces q (List.mem_cons_of_mem piece hq)) (List.cons_ne_nil _ _)]

/-- Texts of a fixed, positive number of values come back. -/
lemma splitOnP_intercalate_map {β : Type} {n : ℕ} {sep : α} (hsep : p sep = true) {f : β → List α}
    (hf : ∀ b, ∀ x ∈ f b, p x = false) (v : Vector β (n + 1)) :
    ([sep].intercalate (v.toList.map f)).splitOnP p = v.toList.map f := by
  refine splitOnP_intercalate hsep (fun piece hpiece => ?_) (fun hnil => ?_)
  · obtain ⟨b, -, rfl⟩ := List.mem_map.1 hpiece
    exact hf b
  · have hlength := congrArg List.length hnil
    rw [List.length_map, Vector.length_toList] at hlength
    exact absurd hlength (Nat.succ_ne_zero n)

lemma mem_of_mem_intercalate {sep x : α} {pieces : List (List α)}
    (hx : x ∈ [sep].intercalate pieces) : x = sep ∨ ∃ piece ∈ pieces, x ∈ piece := by
  induction pieces with
  | nil => exact absurd hx List.not_mem_nil
  | cons piece pieces ih =>
    rcases pieces with _ | ⟨next, pieces⟩
    · rw [List.intercalate_singleton] at hx
      exact .inr ⟨piece, List.mem_cons_self, hx⟩
    · rw [List.intercalate_cons_cons, List.append_assoc, List.singleton_append] at hx
      rcases List.mem_append.1 hx with hx | hx
      · exact .inr ⟨piece, List.mem_cons_self, hx⟩
      · rcases List.mem_cons.1 hx with rfl | hx
        · exact .inl rfl
        · obtain h | ⟨q, hq, hx⟩ := ih hx
          · exact .inl h
          · exact .inr ⟨q, List.mem_cons_of_mem piece hq, hx⟩

end Splitting

end VoiceSteering.Text
