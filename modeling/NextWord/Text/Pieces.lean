/-!
# Pieces of a text

Looking for a part of a text, cutting a text at a mark, and putting a list of texts in order, each of
them once. A text cut at every mark has one piece more than it has marks, and the mark is in none of
them.
-/

namespace NextWord.Text

/-- The rest of a text that begins with a part. -/
def after? (part text : List Char) : Option (List Char) :=
  if part.isPrefixOf text then some (text.drop part.length) else none

theorem after?_append (part rest : List Char) : after? part (part ++ rest) = some rest := by
  simp [after?]

theorem after?_eq_some {part text rest : List Char} :
    after? part text = some rest ↔ text = part ++ rest := by
  constructor
  · intro h
    rw [after?] at h
    split at h
    · next hprefix =>
      obtain ⟨more, rfl⟩ := List.isPrefixOf_iff_prefix.mp hprefix
      rw [List.drop_left, Option.some.injEq] at h
      rw [h]
    · cases h
  · rintro rfl
    exact after?_append part rest

def occursIn (part : List Char) : List Char → Bool
  | [] => part.isEmpty
  | c :: rest => part.isPrefixOf (c :: rest) || occursIn part rest

section Cutting

variable {mark : Char} {text piece : List Char}

theorem length_splitOn (mark : Char) (text : List Char) :
    (text.splitOn mark).length = text.count mark + 1 := by
  induction text with
  | nil => rfl
  | cons c rest ih =>
    rw [List.splitOn_cons_eq_if_modifyHead, List.count_cons]
    split <;> simp [ih]

/-- The first piece is the text before the first mark. -/
theorem exists_splitOn_eq_cons (mark : Char) (text : List Char) :
    ∃ pieces, text.splitOn mark = text.takeWhile (· != mark) :: pieces := by
  induction text with
  | nil => exact ⟨[], rfl⟩
  | cons c rest ih =>
    obtain ⟨pieces, hpieces⟩ := ih
    rw [List.splitOn_cons_eq_if_modifyHead]
    by_cases hc : c = mark
    · rw [if_pos (by simpa using hc), List.takeWhile_cons_of_neg (by simpa using hc)]
      exact ⟨_, rfl⟩
    · rw [if_neg (by simpa using hc), hpieces, List.takeWhile_cons_of_pos (by simpa using hc)]
      exact ⟨pieces, rfl⟩

theorem not_mem_of_mem_splitOn (h : piece ∈ text.splitOn mark) : mark ∉ piece := by
  induction text generalizing piece with
  | nil =>
    obtain rfl := List.mem_singleton.mp h
    exact List.not_mem_nil
  | cons c rest ih =>
    obtain ⟨pieces, hpieces⟩ := exists_splitOn_eq_cons mark rest
    rw [List.splitOn_cons_eq_if_modifyHead] at h
    split at h
    · rcases List.mem_cons.mp h with rfl | h
      · exact List.not_mem_nil
      · exact ih h
    · next hc =>
      rw [hpieces, List.modifyHead_cons] at h
      rw [hpieces] at ih
      rcases List.mem_cons.mp h with rfl | h
      · exact List.not_mem_cons_of_ne_of_not_mem (fun heq => hc (by simp [heq]))
          (ih List.mem_cons_self)
      · exact ih (List.mem_cons_of_mem _ h)

end Cutting

/-- The text before the first mark, and what follows the mark. -/
def cutOnce (mark : Char) : List Char → List Char × List Char
  | [] => ([], [])
  | c :: rest =>
    if c = mark then ([], rest)
    else
      let (before, after) := cutOnce mark rest
      (c :: before, after)

/-- The text up to and including the last mark, if there is one. -/
def throughLast? (mark : Char) : List Char → Option (List Char)
  | [] => none
  | c :: rest =>
    match throughLast? mark rest with
    | some found => some (c :: found)
    | none => if c = mark then some [c] else none

/-- Texts in the order of their code points. -/
def sorted (texts : List String) : List String :=
  texts.mergeSort fun a b => !(b < a)

section Repetitions

variable {α : Type} [BEq α] [LawfulBEq α]

theorem nodup_eraseDups (items : List α) : items.eraseDups.Nodup := by
  match items with
  | [] => simp
  | a :: rest =>
    rw [List.eraseDups_cons, List.nodup_cons]
    exact ⟨by simp, nodup_eraseDups _⟩
termination_by items.length
decreasing_by
  exact Nat.lt_succ_of_le (List.length_filter_le _ rest)

theorem eraseDups_concat (items : List α) (a : α) :
    (items ++ [a]).eraseDups = if a ∈ items then items.eraseDups else items.eraseDups ++ [a] := by
  rw [List.eraseDups_append]
  split
  · next h => simp [List.removeAll, h]
  · next h => simp [List.removeAll, h, List.eraseDups_cons]

end Repetitions

end NextWord.Text
