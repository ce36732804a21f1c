import Mathlib.Data.List.TakeWhile
import NextWord.Predicate.Parser
import NextWord.Proofs.Path.WrittenIndex
import NextWord.Proofs.Predicate.Scanned
import NextWord.Text.WordChar

/-!
# Scanning piece by piece

A text that is put together from lexemes is cut where it was put together, as long as no lexeme goes
on in what follows it. Signs that begin no longer sign and strings never do; a word has to be
followed by a character that is no part of words, and a number by no digit and by no fraction.
-/

namespace NextWord.Predicate

open Text (isBlank isBlank_of_isAlphanum isDigit)

/-- Scanning goes through a text, takes these tokens off it, and goes on with what stands behind. -/
def Yields (text : List Char) (offset : Nat) (tokens : List Token) (rest : List Char) : Prop :=
  scanFrom 0 offset (text ++ rest) = (scanFrom 0 (offset + text.length) rest).map (tokens ++ ·)

section Runs

variable {p : Char → Bool} {taken rest : List Char}

/-- A run of characters ends in front of one that does not belong to it. -/
theorem takeWhile_append_of_head? (htaken : ∀ c ∈ taken, p c = true)
    (hstop : ∀ c ∈ rest.head?, p c = false) : (taken ++ rest).takeWhile p = taken := by
  rw [List.takeWhile_append_of_pos htaken]
  cases rest with
  | nil => rw [List.takeWhile_nil, List.append_nil]
  | cons c rest => rw [List.takeWhile_cons_of_neg (by simp [hstop c rfl]), List.append_nil]

theorem dropWhile_append_of_head? (htaken : ∀ c ∈ taken, p c = true)
    (hstop : ∀ c ∈ rest.head?, p c = false) : (taken ++ rest).dropWhile p = rest := by
  rw [List.dropWhile_append_of_pos htaken]
  cases rest with
  | nil => rw [List.dropWhile_nil]
  | cons c rest => rw [List.dropWhile_cons_of_neg (by simp [hstop c rfl])]

end Runs

section Pieces

variable {text other rest : List Char} {tokens others : List Token} {offset : Nat}

theorem Yields.append (h : Yields text offset tokens (other ++ rest))
    (hother : Yields other (offset + text.length) others rest) :
    Yields (text ++ other) offset (tokens ++ others) rest := by
  rw [Yields] at h hother ⊢
  rw [List.append_assoc, h, hother, List.length_append, ← Nat.add_assoc]
  cases scanFrom 0 (offset + text.length + other.length) rest with
  | error fault => rfl
  | ok behind => simp [Except.map]

theorem Yields.scan_eq (h : Yields text 0 tokens []) : scan text = .ok tokens := by
  rw [Yields, List.append_nil] at h
  rw [scan, h]
  simp [scanFrom, Except.map]

/-- A lexeme is taken off whole. -/
theorem yields_token {c : Char} {more : List Char} {kind : TokenKind}
    (h : lexemeAt c (more ++ rest) = .token kind (c :: more)) (offset : Nat) :
    Yields (c :: more) offset [⟨kind, String.ofList (c :: more), offset⟩] rest := by
  have hbehind : scanFrom more.length (offset + 1) (more ++ rest) =
      scanFrom 0 (offset + (c :: more).length) rest := by
    rw [scanFrom_eq_drop _ _ _ (by simp), List.drop_left]
    congr 1
    simp only [List.length_cons]
    omega
  rw [Yields, List.cons_append, scanFrom, h]
  simp only [List.length_cons, Nat.add_one_sub_one] at hbehind ⊢
  rw [hbehind]
  cases scanFrom 0 (offset + (more.length + 1)) rest <;> rfl

/-- Blanks are dropped one by one as well as all at once. -/
theorem yields_blank {c : Char} (h : isBlank c = true) (offset : Nat) (rest : List Char) :
    Yields [c] offset [] rest := by
  have hblank (c : Char) (rest : List Char) (h : isBlank c = true) (offset : Nat) :
      scanFrom 0 offset (c :: rest) =
        scanFrom (rest.takeWhile isBlank).length (offset + 1) rest := by
    rw [scanFrom, lexemeAt, if_pos h]
    rfl
  have hall : scanFrom 0 offset (c :: rest) = scanFrom 0 (offset + 1) rest := by
    rw [hblank c rest h]
    cases rest with
    | nil => rfl
    | cons d rest =>
      by_cases hd : isBlank d = true
      · rw [hblank d rest hd, List.takeWhile_cons_of_pos hd, List.length_cons, scanFrom]
      · rw [List.takeWhile_cons_of_neg hd, List.length_nil]
  rw [Yields, List.cons_append, List.nil_append, hall]
  cases scanFrom 0 (offset + 1) rest <;> rfl

/-- Two pieces with a blank between them. -/
theorem Yields.spaced (h : Yields text offset tokens (' ' :: (other ++ rest)))
    (hother : Yields other (offset + text.length + 1) others rest) :
    Yields (text ++ ' ' :: other) offset (tokens ++ others) rest := by
  have hblank : Yields [' '] (offset + text.length) [] (other ++ rest) :=
    yields_blank (by decide) _ _
  have hbehind : Yields (' ' :: other) (offset + text.length) others rest := hblank.append hother
  exact h.append hbehind

end Pieces

section Signs

/-- Characters that neither are blank nor begin a number or a string. -/
def BeginsSignOrWord (c : Char) : Prop :=
  isBlank c = false ∧ isDigit c = false ∧ c ≠ '\'' ∧ c ≠ '"'

theorem lexemeAt_of_begins {c : Char} (h : BeginsSignOrWord c) (rest : List Char) :
    lexemeAt c rest =
      if rest.head?.any (isDoubleSign c) then .token .sign (c :: rest.take 1)
      else if isSign c then .token .sign [c]
      else if isWordStart c then .token .word (c :: rest.takeWhile isWordPart)
      else .none := by
  obtain ⟨hblank, hdigit, hsingle, hdouble⟩ := h
  simp [lexemeAt, hblank, hdigit, hsingle, hdouble]

theorem begins_of_isSign {c : Char} (h : isSign c = true) : BeginsSignOrWord c := by
  have hsigns : ['<', '>', '!', '+', '-', '.', '[', ']', '(', ')', ','].all (fun c =>
      !isBlank c && !isDigit c && c != '\'' && c != '"') = true := by decide
  have hc := List.all_eq_true.mp hsigns c (List.contains_iff_mem.mp h)
  simpa [BeginsSignOrWord, and_assoc] using hc

theorem begins_of_isDoubleSign {c d : Char} (h : isDoubleSign c d = true) :
    BeginsSignOrWord c := by
  have hsigns : [('?', '.'), ('=', '='), ('!', '='), ('<', '='), ('>', '='), ('&', '&'),
      ('|', '|')].all (fun pair => !isBlank pair.1 && !isDigit pair.1 && pair.1 != '\'' &&
        pair.1 != '"') = true := by decide
  have hc := List.all_eq_true.mp hsigns (c, d) (List.contains_iff_mem.mp h)
  simpa [BeginsSignOrWord, and_assoc] using hc

theorem yields_sign {c : Char} (h : isSign c = true) {rest : List Char}
    (hrest : rest.head?.any (isDoubleSign c) = false) (offset : Nat) :
    Yields [c] offset [⟨.sign, String.ofList [c], offset⟩] rest := by
  refine yields_token ?_ offset
  rw [List.nil_append, lexemeAt_of_begins (begins_of_isSign h), hrest]
  simp [h]

theorem yields_doubleSign {c d : Char} (h : isDoubleSign c d = true) (offset : Nat)
    (rest : List Char) : Yields [c, d] offset [⟨.sign, String.ofList [c, d], offset⟩] rest := by
  refine yields_token ?_ offset
  rw [lexemeAt_of_begins (begins_of_isDoubleSign h)]
  simp [h]

end Signs

section Words

theorem isDigit_of_isAlpha {c : Char} (h : c.isAlpha = true) : isDigit c = false := by
  delta Char.isAlpha Char.isUpper Char.isLower at h
  simp only [Bool.or_eq_true, Bool.and_eq_true, decide_eq_true_eq, ge_iff_le,
    UInt32.le_iff_toNat_le] at h
  change (65 ≤ c.toNat ∧ c.toNat ≤ 90) ∨ (97 ≤ c.toNat ∧ c.toNat ≤ 122) at h
  have hascii : Text.isAscii c = true := decide_eq_true (by omega)
  have hnine : ¬ c ≤ '9' := by
    rw [Char.le_def, UInt32.le_iff_toNat_le]
    change ¬ c.toNat ≤ 57
    omega
  simp [isDigit, Text.digitValue?, hascii, hnine]

theorem isDigit_of_isWordStart {c : Char} (h : isWordStart c = true) : isDigit c = false := by
  simp only [isWordStart, Bool.or_eq_true, beq_iff_eq] at h
  rcases h with (h | rfl) | rfl
  · exact isDigit_of_isAlpha h
  · decide
  · decide

/-- What a word may begin with begins nothing else. -/
theorem begins_of_isWordStart {c : Char} (h : isWordStart c = true) :
    BeginsSignOrWord c ∧ isSign c = false ∧ ∀ d, isDoubleSign c d = false := by
  have hapart : ['<', '>', '!', '+', '-', '.', '[', ']', '(', ')', ',', '?', '=', '&', '|', '\'',
      '"'].all (fun s => !isWordStart s) = true := by decide
  have hne {s : Char} (hs : s ∈ ['<', '>', '!', '+', '-', '.', '[', ']', '(', ')', ',', '?', '=',
      '&', '|', '\'', '"']) : c ≠ s := by
    rintro rfl
    have hc := List.all_eq_true.mp hapart c hs
    simp [h] at hc
  have hblank : isBlank c = false := by
    simp only [isWordStart, Bool.or_eq_true, beq_iff_eq] at h
    rcases h with (h | rfl) | rfl
    · exact isBlank_of_isAlphanum (by simp [Char.isAlphanum, h])
    · decide
    · decide
  refine ⟨⟨hblank, isDigit_of_isWordStart h, hne (by decide), hne (by decide)⟩, ?_, fun d => ?_⟩
  · simp [isSign, hne]
  · simp [isDoubleSign, hne]

/-- A word ends in front of a character that is no part of words. -/
theorem yields_word {name : String} (h : isWordText name = true) {rest : List Char}
    (hrest : ∀ c ∈ rest.head?, isWordPart c = false) (offset : Nat) :
    Yields name.toList offset [⟨.word, name, offset⟩] rest := by
  rw [isWordText] at h
  split at h
  · next c more hname =>
    obtain ⟨hstart, hmore⟩ := Bool.and_eq_true_iff.mp h
    obtain ⟨hbegins, hsign, hdouble⟩ := begins_of_isWordStart hstart
    have hsingle : (more ++ rest).head?.any (isDoubleSign c) = false := by
      cases (more ++ rest).head? <;> simp [hdouble]
    have hlexeme : lexemeAt c (more ++ rest) = .token .word (c :: more) := by
      rw [lexemeAt_of_begins hbegins, hsingle, hsign, hstart,
        takeWhile_append_of_head? (List.all_eq_true.mp hmore) hrest]
      rfl
    have htoken := yields_token hlexeme offset
    rwa [← hname, String.ofList_toList] at htoken
  · cases h

end Words

section Constants

/-- A numeral ends in front of what is neither a digit nor a fraction. -/
theorem yields_number (n : Nat) {rest : List Char} (hdigit : ∀ c ∈ rest.head?, isDigit c = false)
    (hfraction : fractionPart rest = []) (offset : Nat) :
    Yields (Text.writeNat n) offset [⟨.number, String.ofList (Text.writeNat n), offset⟩] rest := by
  have hdigits : ∀ c ∈ Text.writeNat n, isDigit c = true := Path.isDigit_of_mem_writeNat
  have hascii : ∀ c ∈ Text.writeNat n, c.isDigit = true := fun c hc =>
    Nat.isDigit_of_mem_toDigits (by decide) (by decide) hc
  obtain ⟨c, more, hnumeral⟩ := List.exists_cons_of_ne_nil (Path.writeNat_ne_nil n)
  rw [hnumeral] at hdigits hascii ⊢
  have hblank : isBlank c = false :=
    isBlank_of_isAlphanum (by simp [Char.isAlphanum, hascii c List.mem_cons_self])
  have hmore : ∀ d ∈ more, isDigit d = true := fun d hd => hdigits d (List.mem_cons_of_mem c hd)
  refine yields_token ?_ offset
  rw [lexemeAt, if_neg (by simp [hblank]), if_pos (hdigits c List.mem_cons_self)]
  simp only [takeWhile_append_of_head? hmore hdigit, dropWhile_append_of_head? hmore hdigit,
    hfraction, List.append_nil]

/-- A numeral is read as the number that it writes. -/
theorem numberValue_writeNat (n : Nat) : numberValue (Text.writeNat n) = .int n := by
  have hpoint : ∀ c ∈ Text.writeNat n, (c != '.') = true := by
    intro c hc
    rw [bne_iff_ne]
    rintro rfl
    exact absurd (Path.isDigit_of_mem_writeNat '.' hc) (by decide)
  have htake : (Text.writeNat n).takeWhile (· != '.') = Text.writeNat n :=
    List.takeWhile_eq_self_iff.mpr hpoint
  have hdrop : (Text.writeNat n).dropWhile (· != '.') = [] :=
    List.dropWhile_eq_nil_iff.mpr hpoint
  simp only [numberValue, htake, hdrop, Path.readNat_writeNat]

def quotedChar (c : Char) : List Char :=
  if c = '\\' ∨ c = '\'' then ['\\', c] else [c]

/-- A string between single quotes, both the quote and the backslash behind a backslash. -/
def quotedString (text : String) : List Char :=
  '\'' :: (text.toList.flatMap quotedChar ++ ['\''])

theorem stringRest?_quoted (text rest : List Char) :
    stringRest? '\'' (text.flatMap quotedChar ++ '\'' :: rest) =
      some (text.flatMap quotedChar ++ ['\'']) := by
  induction text with
  | nil => simp [stringRest?]
  | cons c text ih =>
    rw [List.flatMap_cons, quotedChar]
    by_cases hc : c = '\\' ∨ c = '\''
    · have hbreak : c ≠ '\n' := by rcases hc with rfl | rfl <;> decide
      simp [hc, stringRest?, hbreak, ih]
    · obtain ⟨hback, hmark⟩ := not_or.mp hc
      simp [stringRest?, hback, hmark, ih]

theorem unescaped_quoted (text : List Char) : unescaped (text.flatMap quotedChar) = text := by
  induction text with
  | nil => rfl
  | cons c text ih =>
    rw [List.flatMap_cons, quotedChar]
    by_cases hc : c = '\\' ∨ c = '\''
    · have hself : unescape c = c := by rcases hc with rfl | rfl <;> decide
      simp [hc, unescaped, hself, ih]
    · obtain ⟨hback, -⟩ := not_or.mp hc
      rw [if_neg hc, List.singleton_append, unescaped, ih]
      rintro d behind rfl -
      exact hback rfl

/-- A quoted string is taken whole, whatever it contains and whatever follows. -/
theorem yields_string (text : String) (offset : Nat) (rest : List Char) :
    Yields (quotedString text) offset
      [⟨.string, String.ofList (quotedString text), offset⟩] rest := by
  refine yields_token ?_ offset
  have htext : text.toList.flatMap quotedChar ++ ['\''] ++ rest =
      text.toList.flatMap quotedChar ++ '\'' :: rest := by simp
  have hblank : isBlank '\'' = false := by decide
  have hdigit : isDigit '\'' = false := by decide
  rw [htext, lexemeAt, if_neg (by simp [hblank]), if_neg (by simp [hdigit]), if_pos (.inl rfl),
    stringRest?_quoted]

/-- A quoted string is read as the string itself. -/
theorem stringValue_quotedString (text : String) : stringValue (quotedString text) = .str text := by
  simp [stringValue, quotedString, unescaped_quoted]

end Constants

end NextWord.Predicate
