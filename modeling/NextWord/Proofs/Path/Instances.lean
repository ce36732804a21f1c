import NextWord.Proofs.Path.Folding

/-!
# Reading instances back

An instance may write its indices in any decimal digits, leading noughts and digits of other scripts
included. Behind a bracket the digits of an index end at the closing bracket, so the text of a
template leaves one way only to read an instance: reading succeeds exactly on texts that begin with
an instance, and gives the numbers written there. What a template counts as an instance are the
instances themselves and those with one line break behind them, and nothing else.
-/

namespace NextWord.Path

open Text (after?_append after?_eq_some isDigit readNat writeNat writeInt)

namespace Template

section Writing

def writeTail : List (List Char) → List (List Char) → List Char
  | digits :: numerals, piece :: pieces =>
    '[' :: digits ++ ']' :: piece ++ writeTail numerals pieces
  | _, _ => []

/-- The template with a numeral between brackets for each hole. -/
def write (t : Template) (numerals : List (List Char)) : List Char :=
  t.head ++ writeTail numerals t.tail

/-- One numeral for each hole, of decimal digits in any script. -/
structure Fits (t : Template) (numerals : List (List Char)) : Prop where
  length_eq : numerals.length = t.holeCount
  ne_nil : ∀ digits ∈ numerals, digits ≠ []
  isDigit : ∀ digits ∈ numerals, ∀ c ∈ digits, isDigit c = true

/-- Whether a path is the template with some numeral written for each hole. -/
def IsInstance (t : Template) (path : List Char) : Prop :=
  ∃ numerals, t.Fits numerals ∧ path = t.write numerals

/-- Whether a path is an instance in which a hole, counted from nought, has a certain index. -/
def HasIndex (t : Template) (path : List Char) (p n : Nat) : Prop :=
  ∃ numerals, t.Fits numerals ∧ path = t.write numerals ∧ (numerals.map readNat)[p]? = some n

theorem fillTail_eq_writeTail (indices : List Nat) (pieces : List (List Char)) :
    fillTail indices pieces = writeTail (indices.map writeNat) pieces := by
  induction indices generalizing pieces with
  | nil => rfl
  | cons n indices ih =>
    cases pieces with
    | nil => rfl
    | cons piece pieces => simp [fillTail, writeTail, indexText, ih]

/-- The instance with given indices writes them as decimal numerals. -/
theorem fill_eq_write (t : Template) (indices : List Nat) :
    t.fill indices = t.write (indices.map writeNat) := by
  rw [fill, write, fillTail_eq_writeTail]

theorem fits_map_writeNat {t : Template} {indices : List Nat}
    (h : indices.length = t.holeCount) : t.Fits (indices.map writeNat) := by
  refine ⟨by rw [List.length_map, h], ?_, ?_⟩
  · intro digits hdigits
    obtain ⟨n, -, rfl⟩ := List.mem_map.mp hdigits
    exact Path.writeNat_ne_nil n
  · intro digits hdigits
    obtain ⟨n, -, rfl⟩ := List.mem_map.mp hdigits
    exact isDigit_of_mem_writeNat

theorem map_readNat_map_writeNat (indices : List Nat) :
    (indices.map writeNat).map readNat = indices := by
  rw [List.map_map]
  exact List.map_id'' readNat_writeNat indices

end Writing

section Reading

theorem readTail?_writeTail {pieces numerals : List (List Char)}
    (hlength : numerals.length = pieces.length) (hne : ∀ digits ∈ numerals, digits ≠ [])
    (hdigits : ∀ digits ∈ numerals, ∀ c ∈ digits, isDigit c = true) (rest : List Char) :
    readTail? pieces (writeTail numerals pieces ++ rest) = some (numerals.map readNat, rest) := by
  induction pieces generalizing numerals with
  | nil =>
    obtain rfl := List.length_eq_zero_iff.mp hlength
    rfl
  | cons piece pieces ih =>
    cases numerals with
    | nil => cases hlength
    | cons digits numerals =>
      have hopens := openingIndex?_written (hne digits List.mem_cons_self)
        (hdigits digits List.mem_cons_self) (piece ++ (writeTail numerals pieces ++ rest))
      have hdrop : ('[' :: digits ++ ']' :: (piece ++ (writeTail numerals pieces ++ rest))).drop
          (digits.length + 2) = piece ++ (writeTail numerals pieces ++ rest) := by
        simp
      have hmore := ih (Nat.succ.inj hlength)
        (fun other h => hne other (List.mem_cons_of_mem digits h))
        (fun other h => hdigits other (List.mem_cons_of_mem digits h))
      have htext : writeTail (digits :: numerals) (piece :: pieces) ++ rest =
          '[' :: digits ++ ']' :: (piece ++ (writeTail numerals pieces ++ rest)) := by
        simp [writeTail]
      rw [htext, readTail?, hopens]
      dsimp only
      rw [hdrop, after?_append]
      dsimp only
      rw [hmore, Option.map_some, List.map_cons]

theorem exists_of_readTail? {pieces : List (List Char)} {text left : List Char}
    {indices : List Nat} (h : readTail? pieces text = some (indices, left)) :
    ∃ numerals : List (List Char), numerals.length = pieces.length ∧
      (∀ digits ∈ numerals, digits ≠ []) ∧
      (∀ digits ∈ numerals, ∀ c ∈ digits, isDigit c = true) ∧
      indices = numerals.map readNat ∧ text = writeTail numerals pieces ++ left := by
  induction pieces generalizing text indices with
  | nil =>
    cases h
    exact ⟨[], rfl, by simp, by simp, rfl, rfl⟩
  | cons piece pieces ih =>
    rw [readTail?] at h
    split at h
    · cases h
    · next digits hopens =>
      obtain ⟨hne, hdigits, behind, rfl⟩ := openingIndex?_eq_some.mp hopens
      split at h
      · cases h
      · next rest hafter =>
        obtain ⟨⟨others, left'⟩, hothers, heq⟩ := Option.map_eq_some_iff.mp h
        obtain ⟨rfl, rfl⟩ := Prod.mk.inj heq
        obtain ⟨numerals, hlength, hnes, hall, rfl, rfl⟩ := ih hothers
        have hbehind : behind = piece ++ (writeTail numerals pieces ++ left') := by
          have hdrop : ('[' :: digits ++ ']' :: behind).drop (digits.length + 2) = behind := by
            simp
          rw [hdrop] at hafter
          exact after?_eq_some.mp hafter
        refine ⟨digits :: numerals, by simp [hlength], ?_, ?_, rfl, by simp [writeTail, hbehind]⟩
        · intro other hother
          rcases List.mem_cons.mp hother with rfl | hother
          · exact hne
          · exact hnes other hother
        · intro other hother
          rcases List.mem_cons.mp hother with rfl | hother
          · exact hdigits
          · exact hall other hother

/-- A template reads the numbers of the instance that a text begins with, if it begins with one. -/
theorem read?_eq_some_iff {t : Template} {text left : List Char} {indices : List Nat} :
    t.read? text = some (indices, left) ↔
      ∃ numerals, t.Fits numerals ∧ indices = numerals.map readNat ∧
        text = t.write numerals ++ left := by
  constructor
  · intro h
    rw [read?] at h
    split at h
    · cases h
    · next rest hafter =>
      obtain ⟨numerals, hlength, hne, hdigits, hindices, rfl⟩ := exists_of_readTail? h
      refine ⟨numerals, ⟨hlength, hne, hdigits⟩, hindices, ?_⟩
      rw [after?_eq_some.mp hafter, write, List.append_assoc]
  · rintro ⟨numerals, hfits, rfl, rfl⟩
    rw [read?, write, List.append_assoc, after?_append]
    exact readTail?_writeTail hfits.length_eq hfits.ne_nil hfits.isDigit left

/-- A template that ends with its only hole reads the index that stands behind its text. -/
theorem read?_hole {text digits : List Char} (h : '[' ∉ text) (hne : digits ≠ [])
    (hdigits : ∀ c ∈ digits, isDigit c = true) (rest : List Char) :
    (ofText (text ++ hole)).read? (text ++ ('[' :: digits ++ ']' :: rest)) =
      some ([readNat digits], rest) := by
  have htemplate : ofText (text ++ hole) = ⟨text, [[]]⟩ := by
    rw [ofText_append h]
    simp [hole, ofText]
  have hfits : (ofText (text ++ hole)).Fits [digits] := by
    rw [htemplate]
    exact ⟨rfl, by simpa using hne, by simpa using hdigits⟩
  refine read?_eq_some_iff.mpr ⟨[digits], hfits, rfl, ?_⟩
  rw [htemplate]
  simp [write, writeTail]

theorem read?_eq_none_iff {t : Template} {text : List Char} :
    t.read? text = none ↔
      ∀ numerals left, t.Fits numerals → text ≠ t.write numerals ++ left := by
  constructor
  · intro h numerals left hfits htext
    have hread := read?_eq_some_iff.mpr ⟨numerals, hfits, rfl, htext⟩
    rw [h] at hread
    cases hread
  · intro h
    cases hread : t.read? text with
    | none => rfl
    | some found =>
      obtain ⟨numerals, hfits, -, htext⟩ := read?_eq_some_iff.mp hread
      exact absurd htext (h numerals found.2 hfits)

/-- What counts as an instance is one, or one with a line break behind it. -/
theorem indicesOf?_eq_some_iff {t : Template} {path : List Char} {indices : List Nat} :
    t.indicesOf? path = some indices ↔
      ∃ numerals, t.Fits numerals ∧ indices = numerals.map readNat ∧
        (path = t.write numerals ∨ path = t.write numerals ++ ['\n']) := by
  constructor
  · intro h
    rw [indicesOf?] at h
    split at h
    · next own hread =>
      obtain rfl := Option.some.inj h
      obtain ⟨numerals, hfits, hindices, hpath⟩ := read?_eq_some_iff.mp hread
      exact ⟨numerals, hfits, hindices, .inl (by rw [hpath, List.append_nil])⟩
    · next own hread =>
      obtain rfl := Option.some.inj h
      obtain ⟨numerals, hfits, hindices, hpath⟩ := read?_eq_some_iff.mp hread
      exact ⟨numerals, hfits, hindices, .inr hpath⟩
    · cases h
  · rintro ⟨numerals, hfits, rfl, hpath⟩
    rcases hpath with rfl | rfl
    · have hread : t.read? (t.write numerals) = some (numerals.map readNat, []) :=
        read?_eq_some_iff.mpr ⟨numerals, hfits, rfl, (List.append_nil _).symm⟩
      rw [indicesOf?, hread]
    · have hread : t.read? (t.write numerals ++ ['\n']) = some (numerals.map readNat, ['\n']) :=
        read?_eq_some_iff.mpr ⟨numerals, hfits, rfl, rfl⟩
      rw [indicesOf?, hread]
      rfl

theorem length_of_indicesOf? {t : Template} {path : List Char} {indices : List Nat}
    (h : t.indicesOf? path = some indices) : indices.length = t.holeCount := by
  obtain ⟨numerals, hfits, rfl, -⟩ := indicesOf?_eq_some_iff.mp h
  rw [List.length_map, hfits.length_eq]

theorem indicesOf?_eq_none_iff {t : Template} {path : List Char} :
    t.indicesOf? path = none ↔
      ¬ t.IsInstance path ∧ ∀ line, path = line ++ ['\n'] → ¬ t.IsInstance line := by
  constructor
  · intro h
    constructor
    · rintro ⟨numerals, hfits, hpath⟩
      have hcounts := indicesOf?_eq_some_iff.mpr ⟨numerals, hfits, rfl, .inl hpath⟩
      rw [h] at hcounts
      cases hcounts
    · rintro line hpath ⟨numerals, hfits, rfl⟩
      have hcounts := indicesOf?_eq_some_iff.mpr ⟨numerals, hfits, rfl, .inr hpath⟩
      rw [h] at hcounts
      cases hcounts
  · rintro ⟨hpath, hline⟩
    cases hcounts : t.indicesOf? path with
    | none => rfl
    | some indices =>
      obtain ⟨numerals, hfits, -, heq⟩ := indicesOf?_eq_some_iff.mp hcounts
      rcases heq with heq | heq
      · exact absurd ⟨numerals, hfits, heq⟩ hpath
      · exact absurd ⟨numerals, hfits, rfl⟩ (hline _ heq)

/-- The indices that count are those of an instance, a line break behind it aside. -/
theorem exists_indicesOf?_iff {t : Template} {path : List Char} {p n : Nat} :
    (∃ indices, t.indicesOf? path = some indices ∧ indices[p]? = some n) ↔
      t.HasIndex path p n ∨ ∃ line, path = line ++ ['\n'] ∧ t.HasIndex line p n := by
  constructor
  · rintro ⟨indices, hcounts, hn⟩
    obtain ⟨numerals, hfits, rfl, hpath⟩ := indicesOf?_eq_some_iff.mp hcounts
    rcases hpath with rfl | rfl
    · exact .inl ⟨numerals, hfits, rfl, hn⟩
    · exact .inr ⟨_, rfl, numerals, hfits, rfl, hn⟩
  · intro h
    rcases h with ⟨numerals, hfits, hpath, hn⟩ | ⟨line, hpath, numerals, hfits, rfl, hn⟩
    · exact ⟨_, indicesOf?_eq_some_iff.mpr ⟨numerals, hfits, rfl, .inl hpath⟩, hn⟩
    · exact ⟨_, indicesOf?_eq_some_iff.mpr ⟨numerals, hfits, rfl, .inr hpath⟩, hn⟩

/-- A line break behind an instance does not matter. -/
theorem indicesOf?_line {t : Template} {line : List Char} (h : t.IsInstance line) :
    t.indicesOf? (line ++ ['\n']) = t.indicesOf? line := by
  obtain ⟨numerals, hfits, rfl⟩ := h
  rw [indicesOf?_eq_some_iff.mpr ⟨numerals, hfits, rfl, .inl rfl⟩,
    indicesOf?_eq_some_iff.mpr ⟨numerals, hfits, rfl, .inr rfl⟩]

theorem isInstance_iff_read? {t : Template} {path : List Char} :
    t.IsInstance path ↔ ∃ indices, t.read? path = some (indices, []) := by
  constructor
  · rintro ⟨numerals, hfits, rfl⟩
    exact ⟨_, read?_eq_some_iff.mpr ⟨numerals, hfits, rfl, (List.append_nil _).symm⟩⟩
  · rintro ⟨indices, hread⟩
    obtain ⟨numerals, hfits, -, hpath⟩ := read?_eq_some_iff.mp hread
    exact ⟨numerals, hfits, by rw [hpath, List.append_nil]⟩

end Reading

section Joining

/-- A text is empty, or goes on behind a hole or behind a character at which no hole begins. -/
theorem hole_induction {motive : List Char → Prop} (nil : motive [])
    (hole : ∀ rest, motive rest → motive (hole ++ rest))
    (plain : ∀ c rest, ¬ Path.hole <+: c :: rest → motive rest → motive (c :: rest))
    (text : List Char) : motive text := by
  rcases text_cases text with rfl | ⟨rest, htext⟩ | ⟨c, rest, htext, hnot⟩
  · exact nil
  · have hshort : rest.length < text.length := by simp [htext, Path.hole]; omega
    rw [htext]
    exact hole rest (hole_induction nil hole plain rest)
  · have hshort : rest.length < text.length := by simp [htext]
    rw [htext] at hnot ⊢
    exact plain c rest hnot (hole_induction nil hole plain rest)
termination_by text.length

variable {text behind : List Char}

/-- A text that goes on neither with the name nor with the end of a hole completes none. -/
theorem not_hole_prefix_append {c : Char} (h : ¬ hole <+: c :: text)
    (hn : behind.head? ≠ some 'n') (hclose : behind.head? ≠ some ']') :
    ¬ hole <+: c :: (text ++ behind) := by
  intro hprefix
  rw [hole, List.cons_prefix_cons] at hprefix
  obtain ⟨rfl, hprefix⟩ := hprefix
  cases text with
  | nil =>
    obtain ⟨rest, hrest⟩ := hprefix
    exact hn (by rw [← List.nil_append behind, ← hrest]; rfl)
  | cons d text =>
    rw [List.cons_append, List.cons_prefix_cons] at hprefix
    obtain ⟨rfl, hprefix⟩ := hprefix
    cases text with
    | nil =>
      obtain ⟨rest, hrest⟩ := hprefix
      exact hclose (by rw [← List.nil_append behind, ← hrest]; rfl)
    | cons e text =>
      rw [List.cons_append, List.cons_prefix_cons] at hprefix
      obtain ⟨rfl, -⟩ := hprefix
      exact h ⟨text, rfl⟩

theorem holeCount_hole (rest : List Char) :
    (ofText (hole ++ rest)).holeCount = (ofText rest).holeCount + 1 := rfl

theorem holeCount_of_not_mem (h : '[' ∉ text) : (ofText text).holeCount = 0 := by
  have hcount := holeCount_append h []
  rw [List.append_nil] at hcount
  exact hcount

theorem isDigit_of_mem_writeInt {i : Int} {c : Char} (h : c ∈ writeInt i) :
    isDigit c = true ∨ c = '-' := by
  cases i with
  | ofNat n => exact .inl (isDigit_of_mem_writeNat c h)
  | negSucc n =>
    rcases List.mem_cons.mp h with rfl | h
    · exact .inr rfl
    · exact .inl (isDigit_of_mem_writeNat c h)

theorem holeCount_number (i : Int) : (ofText ('[' :: writeInt i ++ [']'])).holeCount = 0 := by
  have hbracket : '[' ∉ writeInt i := fun hmem =>
    absurd (isDigit_of_mem_writeInt hmem) (by decide)
  have hname : 'n' ∉ writeInt i := fun hmem => absurd (isDigit_of_mem_writeInt hmem) (by decide)
  have hnot : ¬ hole <+: '[' :: (writeInt i ++ [']']) := by
    intro hprefix
    rw [hole, List.cons_prefix_cons] at hprefix
    cases hwritten : writeInt i with
    | nil =>
      rw [hwritten, List.nil_append, List.cons_prefix_cons] at hprefix
      exact absurd hprefix.2.1 (by decide)
    | cons d digits =>
      rw [hwritten, List.cons_append, List.cons_prefix_cons] at hprefix
      exact hname (by rw [hwritten, hprefix.2.1]; exact List.mem_cons_self)
  have hplain : '[' ∉ writeInt i ++ [']'] := by simpa using hbracket
  rw [List.cons_append, holeCount_cons hnot, holeCount_of_not_mem hplain]

theorem write_hole (rest digits : List Char) (numerals : List (List Char)) :
    (ofText (hole ++ rest)).write (digits :: numerals) =
      '[' :: digits ++ ']' :: (ofText rest).write numerals := by
  simp [ofText_hole, write, writeTail]

theorem write_cons {c : Char} {rest : List Char} (h : ¬ hole <+: c :: rest)
    (numerals : List (List Char)) :
    (ofText (c :: rest)).write numerals = c :: (ofText rest).write numerals := by
  rw [ofText_cons h]
  rfl

/-- The holes of two joined texts are those of both, unless one is completed where they meet. -/
theorem holeCount_join (hn : behind.head? ≠ some 'n') (hclose : behind.head? ≠ some ']') :
    (ofText (text ++ behind)).holeCount = (ofText text).holeCount + (ofText behind).holeCount := by
  induction text using hole_induction with
  | nil => exact (Nat.zero_add _).symm
  | hole rest ih =>
    rw [List.append_assoc, holeCount_hole, holeCount_hole, ih]
    omega
  | plain c rest hnot ih =>
    rw [List.cons_append, holeCount_cons (not_hole_prefix_append hnot hn hclose),
      holeCount_cons hnot, ih]

theorem write_join (hn : behind.head? ≠ some 'n') (hclose : behind.head? ≠ some ']')
    {numerals : List (List Char)} (h : numerals.length = (ofText text).holeCount)
    (others : List (List Char)) :
    (ofText (text ++ behind)).write (numerals ++ others) =
      (ofText text).write numerals ++ (ofText behind).write others := by
  induction text using hole_induction generalizing numerals with
  | nil =>
    obtain rfl := List.length_eq_zero_iff.mp h
    rfl
  | hole rest ih =>
    cases numerals with
    | nil => cases h
    | cons digits numerals =>
      rw [List.append_assoc, List.cons_append, write_hole, write_hole, ih (Nat.succ.inj h)]
      simp
  | plain c rest hnot ih =>
    rw [holeCount_cons hnot] at h
    rw [List.cons_append, write_cons (not_hole_prefix_append hnot hn hclose), write_cons hnot, ih h,
      List.cons_append]

end Joining

end Template
end NextWord.Path
