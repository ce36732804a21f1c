import Mathlib.Data.List.Basic
import Mathlib.Data.List.TakeWhile
import NextWord.Proofs.Path.WrittenIndex

/-!
# Folding the indices of an instance

Whether an index opens a text that begins with a bracket depends on the digits behind the bracket
and on the one character behind these. Neither folding nor filling holes changes that character, so
folding an instance of a template folds the template. A folded path holds no index, and a path that
holds none is its own folding: folding twice is folding once, and folding what was written for the
holes of a template gives the template back unless it held an index already.
-/

namespace NextWord.Path

open Text (isDigit writeNat)

section OpeningIndex

theorem openingIndex?_of_ne {c : Char} (h : c ≠ '[') (rest : List Char) :
    openingIndex? (c :: rest) = none := by
  rw [openingIndex?]
  rintro more ⟨⟩
  exact h rfl

/-- An index opens a text exactly if it begins with digits between brackets. -/
theorem openingIndex?_eq_some {text digits : List Char} :
    openingIndex? text = some digits ↔
      digits ≠ [] ∧ (∀ c ∈ digits, isDigit c = true) ∧
        ∃ rest, text = '[' :: digits ++ ']' :: rest := by
  constructor
  · intro h
    cases text with
    | nil => cases h
    | cons c text =>
      by_cases hc : c = '['
      · subst hc
        have hsplit := List.takeWhile_append_dropWhile (p := isDigit) (l := text)
        rw [openingIndex?] at h
        split at h
        · next d ds rest hdigits hrest =>
          obtain rfl := Option.some.inj h
          refine ⟨by simp, fun a ha => List.mem_takeWhile_imp (hdigits ▸ ha), rest, ?_⟩
          rw [List.cons_append, ← hrest, ← hdigits, hsplit]
        · cases h
      · rw [openingIndex?_of_ne hc] at h
        cases h
  · rintro ⟨hne, hdigits, rest, rfl⟩
    exact openingIndex?_written hne hdigits rest

/-- A hole is no index. -/
theorem openingIndex?_hole (rest : List Char) :
    openingIndex? ('[' :: 'n' :: ']' :: rest) = none := by
  have hn : isDigit 'n' = false := by decide
  simp [openingIndex?, hn]

/-- Behind a bracket and digits only the next character matters. -/
theorem openingIndex?_congr {digits first second : List Char}
    (hdigits : ∀ c ∈ digits, isDigit c = true) (hstop : ∀ c ∈ first.head?, isDigit c = false)
    (hsame : first.head? = second.head?) :
    openingIndex? ('[' :: (digits ++ first)) = openingIndex? ('[' :: (digits ++ second)) := by
  have hparts : ∀ text : List Char, (∀ c ∈ text.head?, isDigit c = false) →
      (digits ++ text).takeWhile isDigit = digits ∧ (digits ++ text).dropWhile isDigit = text := by
    intro text htext
    rw [List.takeWhile_append_of_pos hdigits, List.dropWhile_append_of_pos hdigits]
    cases text with
    | nil => simp
    | cons c text => simp [htext c rfl]
  obtain ⟨htake, hdrop⟩ := hparts first hstop
  obtain ⟨htake', hdrop'⟩ := hparts second (hsame ▸ hstop)
  rw [openingIndex?, openingIndex?, htake, hdrop, htake', hdrop']
  cases digits with
  | nil => rfl
  | cons d digits =>
    cases first with
    | nil => cases second <;> simp at hsame ⊢
    | cons c first =>
      obtain ⟨more, rfl⟩ := List.head?_eq_some_iff.mp hsame.symm
      by_cases hc : c = ']'
      · subst hc
        rfl
      · simp [hc]

end OpeningIndex

section Folding

theorem fold_cons {c : Char} {rest : List Char} (h : openingIndex? (c :: rest) = none) :
    fold (c :: rest) = c :: fold rest := by
  rw [fold, foldFrom, h]
  rfl

theorem fold_index {digits : List Char} (hne : digits ≠ [])
    (hdigits : ∀ c ∈ digits, isDigit c = true) (rest : List Char) :
    fold ('[' :: digits ++ ']' :: rest) = hole ++ fold rest := by
  have hopens := openingIndex?_written hne hdigits rest
  rw [List.cons_append] at hopens ⊢
  rw [fold, foldFrom, hopens]
  simp [foldFrom_eq_drop]

theorem fold_hole (rest : List Char) : fold (hole ++ rest) = hole ++ fold rest := by
  change fold ('[' :: 'n' :: ']' :: rest) = '[' :: 'n' :: ']' :: fold rest
  rw [fold_cons (openingIndex?_hole rest), fold_cons (openingIndex?_of_ne (by decide) _),
    fold_cons (openingIndex?_of_ne (by decide) _)]

theorem fold_append {text : List Char} (h : '[' ∉ text) (rest : List Char) :
    fold (text ++ rest) = text ++ fold rest := by
  induction text with
  | nil => rfl
  | cons c text ih =>
    have hc : c ≠ '[' := fun heq => h (heq ▸ List.mem_cons_self)
    rw [List.cons_append, fold_cons (openingIndex?_of_ne hc _),
      ih fun hmem => h (List.mem_cons_of_mem c hmem), List.cons_append]

/-- A text that begins with a bracket: an index opens it, or digits and something else follow. -/
theorem opens_or_not (rest : List Char) :
    (∃ digits more, digits ≠ [] ∧ (∀ c ∈ digits, isDigit c = true) ∧
      rest = digits ++ ']' :: more) ∨
    (openingIndex? ('[' :: rest) = none ∧ ∃ digits more, (∀ c ∈ digits, isDigit c = true) ∧
      (∀ c ∈ more.head?, isDigit c = false) ∧ rest = digits ++ more) := by
  cases hopens : openingIndex? ('[' :: rest) with
  | some digits =>
    obtain ⟨hne, hdigits, more, htext⟩ := openingIndex?_eq_some.mp hopens
    exact .inl ⟨digits, more, hne, hdigits, (List.cons.inj htext).2⟩
  | none =>
    refine .inr ⟨rfl, rest.takeWhile isDigit, rest.dropWhile isDigit, fun c hc => ?_, ?_, ?_⟩
    · exact List.mem_takeWhile_imp hc
    · intro c hc
      have := List.head?_dropWhile_not isDigit rest
      rw [Option.mem_def.mp hc] at this
      simpa using this
    · rw [List.takeWhile_append_dropWhile]

/-- Folding goes on behind an index, or behind a character where no index opens the text. -/
theorem fold_induction {motive : List Char → Prop} (nil : motive [])
    (index : ∀ digits rest, digits ≠ [] → (∀ c ∈ digits, isDigit c = true) → motive rest →
      motive ('[' :: digits ++ ']' :: rest))
    (plain : ∀ c rest, openingIndex? (c :: rest) = none → motive rest → motive (c :: rest))
    (text : List Char) : motive text := by
  match text with
  | [] => exact nil
  | c :: rest =>
    cases hopens : openingIndex? (c :: rest) with
    | none => exact plain c rest hopens (fold_induction nil index plain rest)
    | some digits =>
      obtain ⟨hne, hdigits, more, htext⟩ := openingIndex?_eq_some.mp hopens
      have hshort : more.length < (c :: rest).length := by simp [htext]; omega
      rw [htext]
      exact index digits more hne hdigits (fold_induction nil index plain more)
termination_by text.length
decreasing_by
  · exact Nat.lt_succ_self _
  · exact hshort

theorem head?_fold (text : List Char) : (fold text).head? = text.head? := by
  induction text using fold_induction with
  | nil => rfl
  | index digits rest hne hdigits =>
    rw [fold_index hne hdigits]
    rfl
  | plain c rest hnone =>
    rw [fold_cons hnone]
    rfl

theorem not_mem_bracket_of_digits {digits : List Char} (h : ∀ c ∈ digits, isDigit c = true) :
    '[' ∉ digits := fun hmem => absurd (h '[' hmem) (by decide)

/-- Folding what stands behind a character opens no index at it. -/
theorem openingIndex?_fold {c : Char} {rest : List Char} (h : openingIndex? (c :: rest) = none) :
    openingIndex? (c :: fold rest) = none := by
  by_cases hc : c = '['
  · subst hc
    rcases opens_or_not rest with
      ⟨digits, more, hne, hdigits, rfl⟩ | ⟨-, digits, more, hdigits, hstop, rfl⟩
    · rw [← List.cons_append, openingIndex?_written hne hdigits] at h
      cases h
    · rw [fold_append (not_mem_bracket_of_digits hdigits),
        ← openingIndex?_congr hdigits hstop (head?_fold more).symm, h]
  · exact openingIndex?_of_ne hc _

theorem getLast?_fold (text : List Char) : (fold text).getLast? = text.getLast? := by
  induction text using fold_induction with
  | nil => rfl
  | index digits rest hne hdigits ih =>
    rw [fold_index hne hdigits, List.getLast?_append, ih, List.getLast?_append, List.getLast?_cons]
    cases rest.getLast? <;> rfl
  | plain c rest hnone ih => rw [fold_cons hnone, List.getLast?_cons, List.getLast?_cons, ih]

end Folding

section Indexless

def HoldsIndex (text : List Char) : Prop :=
  ∃ digits, digits ≠ [] ∧ (∀ c ∈ digits, isDigit c = true) ∧ '[' :: digits ++ [']'] <:+: text

/-- Where no index opens a text, all that it holds stand behind its first character. -/
theorem holdsIndex_cons {c : Char} {rest : List Char} (h : openingIndex? (c :: rest) = none) :
    HoldsIndex (c :: rest) ↔ HoldsIndex rest := by
  constructor
  · rintro ⟨digits, hne, hdigits, hinfix⟩
    rcases List.infix_cons_iff.mp hinfix with ⟨more, hopens⟩ | hbehind
    · have hsome : openingIndex? (c :: rest) = some digits :=
        openingIndex?_eq_some.mpr ⟨hne, hdigits, more, by simp [← hopens]⟩
      rw [h] at hsome
      cases hsome
    · exact ⟨digits, hne, hdigits, hbehind⟩
  · rintro ⟨digits, hne, hdigits, hinfix⟩
    exact ⟨digits, hne, hdigits, List.infix_cons hinfix⟩

theorem holdsIndex_hole (rest : List Char) : HoldsIndex (hole ++ rest) ↔ HoldsIndex rest := by
  change HoldsIndex ('[' :: 'n' :: ']' :: rest) ↔ HoldsIndex rest
  rw [holdsIndex_cons (openingIndex?_hole rest),
    holdsIndex_cons (openingIndex?_of_ne (by decide) _),
    holdsIndex_cons (openingIndex?_of_ne (by decide) _)]

theorem not_holdsIndex_fold (text : List Char) : ¬ HoldsIndex (fold text) := by
  induction text using fold_induction with
  | nil =>
    rintro ⟨digits, -, -, hinfix⟩
    simpa using List.eq_nil_of_infix_nil hinfix
  | index digits rest hne hdigits ih => rwa [fold_index hne hdigits, holdsIndex_hole]
  | plain c rest hnone ih => rwa [fold_cons hnone, holdsIndex_cons (openingIndex?_fold hnone)]

theorem fold_of_not_holdsIndex {text : List Char} (h : ¬ HoldsIndex text) : fold text = text := by
  induction text using fold_induction with
  | nil => rfl
  | index digits rest hne hdigits ih =>
    exact absurd ⟨digits, hne, hdigits, [], rest, by simp⟩ h
  | plain c rest hnone ih =>
    rw [holdsIndex_cons hnone] at h
    rw [fold_cons hnone, ih h]

/-- The paths that folding leaves alone are those without an index. -/
theorem fold_eq_self_iff {text : List Char} : fold text = text ↔ ¬ HoldsIndex text :=
  ⟨fun h => h ▸ not_holdsIndex_fold text, fold_of_not_holdsIndex⟩

theorem fold_fold (text : List Char) : fold (fold text) = fold text :=
  fold_of_not_holdsIndex (not_holdsIndex_fold text)

theorem foldIndices_foldIndices (path : String) :
    foldIndices (foldIndices path) = foldIndices path := by
  simp [foldIndices, fold_fold]

end Indexless

namespace Template

theorem ofText_hole (rest : List Char) :
    ofText (hole ++ rest) = ⟨[], (ofText rest).head :: (ofText rest).tail⟩ := rfl

theorem ofText_cons {c : Char} {rest : List Char} (h : ¬ hole <+: c :: rest) :
    ofText (c :: rest) = ⟨c :: (ofText rest).head, (ofText rest).tail⟩ := by
  rw [ofText]
  rintro more rfl rfl
  exact h ⟨more, rfl⟩

theorem fill_hole (rest : List Char) (n : Nat) (indices : List Nat) :
    (ofText (hole ++ rest)).fill (n :: indices) = indexText n ++ (ofText rest).fill indices := by
  simp [ofText_hole, fill, fillTail]

theorem fill_cons {c : Char} {rest : List Char} (h : ¬ hole <+: c :: rest) (indices : List Nat) :
    (ofText (c :: rest)).fill indices = c :: (ofText rest).fill indices := by
  rw [ofText_cons h]
  rfl

theorem holeCount_cons {c : Char} {rest : List Char} (h : ¬ hole <+: c :: rest) :
    (ofText (c :: rest)).holeCount = (ofText rest).holeCount := by
  rw [ofText_cons h]
  rfl

theorem holeCount_append {text : List Char} (h : '[' ∉ text) (rest : List Char) :
    (ofText (text ++ rest)).holeCount = (ofText rest).holeCount := by
  rw [ofText_append h]
  rfl

theorem fill_append {text : List Char} (h : '[' ∉ text) (rest : List Char) (indices : List Nat) :
    (ofText (text ++ rest)).fill indices = text ++ (ofText rest).fill indices := by
  simp [ofText_append h, fill]

/-- A text is empty, begins with a hole, or goes on behind its first character. -/
theorem text_cases (text : List Char) :
    text = [] ∨ (∃ rest, text = hole ++ rest) ∨ ∃ c rest, text = c :: rest ∧ ¬ hole <+: text := by
  by_cases h : hole <+: text
  · obtain ⟨rest, rfl⟩ := h
    exact .inr (.inl ⟨rest, rfl⟩)
  · cases text with
    | nil => exact .inl rfl
    | cons c rest => exact .inr (.inr ⟨c, rest, rfl, h⟩)

/-- An instance begins like its template. -/
theorem head?_fill {text : List Char} {indices : List Nat}
    (h : indices.length = (ofText text).holeCount) :
    ((ofText text).fill indices).head? = text.head? := by
  rcases text_cases text with rfl | ⟨rest, rfl⟩ | ⟨c, rest, rfl, hhole⟩
  · cases indices <;> rfl
  · cases indices with
    | nil => cases h
    | cons n indices => rw [fill_hole]; rfl
  · rw [fill_cons hhole]
    rfl

theorem fold_indexText (n : Nat) (rest : List Char) :
    fold (indexText n ++ rest) = hole ++ fold rest := by
  have := fold_index (Path.writeNat_ne_nil n) isDigit_of_mem_writeNat rest
  simpa [indexText] using this

/-- Folding an instance folds the template. -/
theorem fold_fill (text : List Char) (indices : List Nat)
    (h : indices.length = (ofText text).holeCount) :
    fold ((ofText text).fill indices) = fold text := by
  rcases text_cases text with rfl | ⟨rest, rfl⟩ | ⟨c, rest, rfl, hhole⟩
  · cases indices <;> rfl
  · cases indices with
    | nil => cases h
    | cons n indices =>
      rw [fill_hole, fold_indexText, fold_hole, fold_fill rest indices (Nat.succ.inj h)]
  · have hrest : indices.length = (ofText rest).holeCount := h.trans (holeCount_cons hhole)
    rw [fill_cons hhole]
    by_cases hc : c = '['
    · subst hc
      rcases opens_or_not rest with
        ⟨digits, more, hne, hdigits, rfl⟩ | ⟨hnone, digits, more, hdigits, hstop, rfl⟩
      · have hplain : '[' ∉ digits ++ [']'] := by
          simpa using not_mem_bracket_of_digits hdigits
        have hmore : indices.length = (ofText more).holeCount := by
          rw [hrest, ← List.singleton_append, ← List.append_assoc, holeCount_append hplain]
        have hfill : (ofText (digits ++ ']' :: more)).fill indices =
            digits ++ ']' :: (ofText more).fill indices := by
          rw [← List.singleton_append, ← List.append_assoc, fill_append hplain]
          simp
        rw [hfill, ← List.cons_append, ← List.cons_append, fold_index hne hdigits,
          fold_index hne hdigits, fold_fill more indices hmore]
      · have hplain := not_mem_bracket_of_digits hdigits
        have hmore := hrest.trans (holeCount_append hplain more)
        have hstill : openingIndex? ('[' :: (ofText (digits ++ more)).fill indices) = none := by
          rw [fill_append hplain, ← openingIndex?_congr hdigits hstop (head?_fill hmore).symm,
            hnone]
        rw [fold_cons hnone, fold_cons hstill, fold_fill _ indices hrest]
    · rw [fold_cons (openingIndex?_of_ne hc _), fold_cons (openingIndex?_of_ne hc rest),
        fold_fill rest indices hrest]
termination_by text.length
decreasing_by all_goals simp_all [hole] <;> omega

/-- A template without holes is its own instance. -/
theorem head_of_holeCount_eq_zero {text : List Char} (h : (ofText text).holeCount = 0) :
    (ofText text).head = text := by
  fun_induction ofText text with
  | case1 => rfl
  | case2 rest t ih => cases h
  | case3 c rest hhole t ih => rw [ih h]

/-- An instance of a template with holes is not the template. -/
theorem holeCount_eq_zero_of_fill_eq {text : List Char} {indices : List Nat}
    (hlength : indices.length = (ofText text).holeCount)
    (h : (ofText text).fill indices = text) : (ofText text).holeCount = 0 := by
  rcases text_cases text with rfl | ⟨rest, rfl⟩ | ⟨c, rest, rfl, hhole⟩
  · rfl
  · cases indices with
    | nil => cases hlength
    | cons n indices =>
      obtain ⟨d, digits, hdigits⟩ := List.exists_cons_of_ne_nil (Path.writeNat_ne_nil n)
      have hdigit : isDigit d = true := isDigit_of_mem_writeNat d (by rw [hdigits]; simp)
      rw [fill_hole, indexText, hdigits] at h
      obtain rfl : d = 'n' := (List.cons.inj (List.cons.inj h).2).1
      exact absurd hdigit (by decide)
  · rw [fill_cons hhole] at h
    rw [holeCount_cons hhole] at hlength ⊢
    exact holeCount_eq_zero_of_fill_eq hlength (List.cons.inj h).2
termination_by text.length
decreasing_by simp_all

end Template

/-- Folding twice is folding once, and folding an instance gives back its template exactly if that
holds no index. -/
theorem foldIndices_fill :
    (∀ path, foldIndices (foldIndices path) = foldIndices path) ∧
      ∀ (template : String) (indices : List Nat),
        indices.length = (Template.ofText template.toList).holeCount →
          (foldIndices (String.ofList ((Template.ofText template.toList).fill indices)) = template ↔
            ¬ HoldsIndex template.toList) := by
  refine ⟨foldIndices_foldIndices, fun template indices hlength => ?_⟩
  rw [foldIndices, String.toList_ofList, Template.fold_fill _ _ hlength, ← String.toList_inj,
    String.toList_ofList, fold_eq_self_iff]

/-- Stray brackets and digits beside the holes of a template make no index. -/
theorem foldIndices_fill_stray :
    ¬ HoldsIndex "[1[n]2][n][x3]]".toList ∧
      foldIndices "[1[7]2][10][x3]]" = "[1[n]2][n][x3]]" := by
  have hfree : ¬ HoldsIndex "[1[n]2][n][x3]]".toList := by
    rw [← fold_eq_self_iff]
    decide +kernel
  have hfill : String.ofList ((Template.ofText "[1[n]2][n][x3]]".toList).fill [7, 10]) =
      "[1[7]2][10][x3]]" := by
    decide +kernel
  have hfolded := (foldIndices_fill.2 "[1[n]2][n][x3]]" [7, 10] (by decide +kernel)).mpr hfree
  rw [hfill] at hfolded
  exact ⟨hfree, hfolded⟩

end NextWord.Path
