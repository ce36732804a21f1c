/-!
# Blank characters

White space in the Unicode sense, together with the four information separators U+001C to U+001F
and the next-line control U+0085. The zero-width space U+200B and the byte order mark U+FEFF are not
blank. A stripped text has no blanks at its ends.
-/

namespace NextWord.Text

def isBlank (c : Char) : Bool :=
  let n := c.toNat
  (9 ≤ n && n ≤ 13) || (28 ≤ n && n ≤ 32) ||
    (128 ≤ n &&
      (n == 0x85 || n == 0xa0 || n == 0x1680 || (0x2000 ≤ n && n ≤ 0x200a) ||
        n == 0x2028 || n == 0x2029 || n == 0x202f || n == 0x205f || n == 0x3000))

def strip (text : List Char) : List Char :=
  ((text.dropWhile isBlank).reverse.dropWhile isBlank).reverse

def IsTrimmed (text : List Char) : Prop :=
  (∀ c ∈ text.head?, isBlank c = false) ∧ ∀ c ∈ text.getLast?, isBlank c = false

theorem isBlank_of_head?_dropWhile {text : List Char} {c : Char}
    (h : c ∈ (text.dropWhile isBlank).head?) : isBlank c = false := by
  have hhead := List.head?_dropWhile_not isBlank text
  rwa [h] at hhead

theorem strip_prefix_dropWhile (text : List Char) : strip text <+: text.dropWhile isBlank := by
  have hsuffix := List.dropWhile_suffix (l := (text.dropWhile isBlank).reverse) isBlank
  have hprefix := List.reverse_prefix.mpr hsuffix
  rwa [List.reverse_reverse] at hprefix

theorem isTrimmed_strip (text : List Char) : IsTrimmed (strip text) := by
  refine ⟨fun c hc => ?_, fun c hc => ?_⟩
  · obtain ⟨behind, hbehind⟩ := strip_prefix_dropWhile text
    have hhead : c ∈ (text.dropWhile isBlank).head? := by
      rw [← hbehind, List.head?_append, hc]
      rfl
    exact isBlank_of_head?_dropWhile hhead
  · rw [strip, List.getLast?_reverse] at hc
    exact isBlank_of_head?_dropWhile hc

theorem mem_of_mem_strip {text : List Char} {c : Char} (h : c ∈ strip text) : c ∈ text :=
  (List.dropWhile_suffix isBlank).mem ((strip_prefix_dropWhile text).mem h)

def isBlankText (text : List Char) : Bool :=
  text.all isBlank

end NextWord.Text
