import Mathlib.Data.List.Basic
import NextWord.Text.Blank
import NextWord.Text.Pieces

/-!
# Joined texts

A text is cut at its first mark into what was joined there if the mark is not in the front part, and
there is nothing to strip from a text that begins and ends with a stripped one, whatever stands
between.
-/

namespace NextWord.Text

section Cutting

variable {mark : Char}

theorem cutOnce_append_cons {before : List Char} (h : mark ∉ before) (after : List Char) :
    cutOnce mark (before ++ mark :: after) = (before, after) := by
  induction before with
  | nil => simp [cutOnce]
  | cons c before ih =>
    rw [List.cons_append, cutOnce, if_neg (Ne.symm (List.ne_of_not_mem_cons h)),
      ih (List.not_mem_of_not_mem_cons h)]

theorem cutOnce_of_not_mem {text : List Char} (h : mark ∉ text) :
    cutOnce mark text = (text, []) := by
  induction text with
  | nil => rfl
  | cons c text ih =>
    rw [cutOnce, if_neg (Ne.symm (List.ne_of_not_mem_cons h)),
      ih (List.not_mem_of_not_mem_cons h)]

end Cutting

section Stripping

theorem dropWhile_isBlank {text : List Char} (h : ∀ c ∈ text.head?, isBlank c = false) :
    text.dropWhile isBlank = text := by
  cases text with
  | nil => rfl
  | cons c text => exact List.dropWhile_cons_of_neg (by simp [h c rfl])

theorem strip_of_isTrimmed {text : List Char} (h : IsTrimmed text) : strip text = text := by
  rw [strip, dropWhile_isBlank h.1, dropWhile_isBlank, List.reverse_reverse]
  rw [List.head?_reverse]
  exact h.2

theorem IsTrimmed.append {front back : List Char} (hfront : IsTrimmed front)
    (hback : IsTrimmed back) (front_ne : front ≠ []) (back_ne : back ≠ []) (middle : List Char) :
    IsTrimmed (front ++ middle ++ back) := by
  refine ⟨fun c hc => hfront.1 c ?_, fun c hc => hback.2 c ?_⟩
  · rwa [List.append_assoc, List.head?_append_of_ne_nil _ front_ne] at hc
  · rwa [List.getLast?_append_of_ne_nil _ back_ne] at hc

theorem isTrimmed_intercalate {pieces : List (List Char)} (mark : List Char)
    (hne : pieces ≠ []) (h : ∀ piece ∈ pieces, piece ≠ [] ∧ IsTrimmed piece) :
    mark.intercalate pieces ≠ [] ∧ IsTrimmed (mark.intercalate pieces) := by
  induction pieces with
  | nil => exact absurd rfl hne
  | cons piece pieces ih =>
    obtain ⟨⟨piece_ne, hpiece⟩, hpieces⟩ := List.forall_mem_cons.mp h
    cases pieces with
    | nil => exact ⟨by simpa using piece_ne, by simpa using hpiece⟩
    | cons second pieces =>
      obtain ⟨rest_ne, hrest⟩ := ih (List.cons_ne_nil _ _) hpieces
      rw [List.intercalate_cons_cons]
      exact ⟨by simp [piece_ne], hpiece.append hrest piece_ne rest_ne mark⟩

end Stripping

end NextWord.Text
