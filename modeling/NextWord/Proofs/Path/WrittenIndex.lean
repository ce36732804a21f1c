import NextWord.Path.Template

/-!
# Indices as they are written

An index is written as a decimal numeral between brackets. Any run of decimal digits is read there,
of any script and with leading noughts, and the numeral of a number reads back as that number. Text
without a bracket in front of a template makes no hole.
-/

namespace NextWord.Path

open Text (isDigit readNat writeNat digitValue?)

theorem digitValue?_digitChar {d : Nat} (h : d < 10) : digitValue? d.digitChar = some d := by
  revert h
  revert d
  decide

theorem writeNat_of_lt {n : Nat} (h : n < 10) : writeNat n = [n.digitChar] :=
  Nat.toDigits_of_lt_base h

theorem writeNat_of_le {n : Nat} (h : 10 ≤ n) :
    writeNat n = writeNat (n / 10) ++ [(n % 10).digitChar] :=
  Nat.toDigits_of_base_le (by omega) h

theorem writeNat_ne_nil (n : Nat) : writeNat n ≠ [] :=
  Nat.toDigits_ne_nil

theorem isDigit_of_mem_writeNat {n : Nat} : ∀ c ∈ writeNat n, isDigit c = true := by
  induction n using Nat.strongRecOn with
  | ind n ih =>
    intro c hc
    by_cases h : n < 10
    · rw [writeNat_of_lt h, List.mem_singleton] at hc
      rw [hc, isDigit, digitValue?_digitChar h, Option.isSome_some]
    · rw [writeNat_of_le (by omega), List.mem_append, List.mem_singleton] at hc
      rcases hc with hc | hc
      · exact ih (n / 10) (by omega) c hc
      · rw [hc, isDigit, digitValue?_digitChar (by omega), Option.isSome_some]

/-- A numeral reads back as the number it writes. -/
theorem readNat_writeNat (n : Nat) : readNat (writeNat n) = n := by
  induction n using Nat.strongRecOn with
  | ind n ih =>
    by_cases h : n < 10
    · simp [writeNat_of_lt h, readNat, digitValue?_digitChar h]
    · rw [writeNat_of_le (by omega), Text.readNat_append_singleton, ih (n / 10) (by omega),
        digitValue?_digitChar (by omega), Option.getD_some]
      omega

theorem openingIndex?_written {digits : List Char} (hne : digits ≠ [])
    (hdigits : ∀ c ∈ digits, isDigit c = true) (rest : List Char) :
    openingIndex? ('[' :: digits ++ ']' :: rest) = some digits := by
  have hclose : isDigit ']' = false := by decide
  have htake : (digits ++ ']' :: rest).takeWhile isDigit = digits := by
    rw [List.takeWhile_append_of_pos hdigits, List.takeWhile_cons_of_neg (by simp [hclose]),
      List.append_nil]
  have hdrop : (digits ++ ']' :: rest).dropWhile isDigit = ']' :: rest := by
    rw [List.dropWhile_append_of_pos hdigits, List.dropWhile_cons_of_neg (by simp [hclose])]
  rw [List.cons_append, openingIndex?, htake, hdrop]
  cases digits with
  | nil => exact absurd rfl hne
  | cons d ds => rfl

namespace Template

theorem ofText_append {text : List Char} (h : '[' ∉ text) (rest : List Char) :
    ofText (text ++ rest) = ⟨text ++ (ofText rest).head, (ofText rest).tail⟩ := by
  induction text with
  | nil => rfl
  | cons c text ih =>
    have hc : c ≠ '[' := fun heq => h (heq ▸ List.mem_cons_self)
    have htext := ih (fun hmem => h (List.mem_cons_of_mem c hmem))
    rw [List.cons_append, ofText, htext]
    · rfl
    · rintro rest' heq
      exact absurd heq hc

end Template
end NextWord.Path
