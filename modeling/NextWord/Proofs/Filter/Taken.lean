import Mathlib.Data.List.TakeWhile
import NextWord.Filter.Token
import NextWord.Text.WordChar

/-!
# What a kind of token takes

The texts of tokens, said without the reader: a sign behind blanks, an operator with its
parenthesis, a raw word, contents of quotation marks. A sign or an operator is taken whatever comes
behind it; a raw word has to be followed by another character than a raw one, and contents by the
closing mark. What is taken of blanks alone is a raw token as well, and no further token can follow
it.
-/

namespace NextWord.Filter

open Text (isBlank isBlank_of_isAlphanum throughLast?)

def AllBlank (text : List Char) : Prop :=
  ∀ c ∈ text, isBlank c = true

theorem AllBlank.nil : AllBlank [] := by
  simp [AllBlank]

theorem AllBlank.append {blanks more : List Char} (h : AllBlank blanks) (hmore : AllBlank more) :
    AllBlank (blanks ++ more) :=
  List.forall_mem_append.mpr ⟨h, hmore⟩

theorem allBlank_of_spaces {spaces : List Char} (h : ∀ c ∈ spaces, c = ' ') : AllBlank spaces := by
  intro c hc
  rw [h c hc]
  decide

theorem allBlank_or_split (text : List Char) :
    AllBlank text ∨ ∃ blanks c rest, text = blanks ++ c :: rest ∧ AllBlank blanks ∧
      isBlank c = false := by
  induction text with
  | nil => exact .inl .nil
  | cons d text ih =>
    cases hd : isBlank d with
    | false => exact .inr ⟨[], d, text, rfl, .nil, hd⟩
    | true =>
      rcases ih with hblank | ⟨blanks, c, rest, rfl, hblanks, hc⟩
      · exact .inl (by simpa [AllBlank, hd] using hblank)
      · exact .inr ⟨d :: blanks, c, rest, rfl, by simpa [AllBlank, hd] using hblanks, hc⟩

theorem AllBlank.takeWhile {blanks : List Char} (h : AllBlank blanks) (rest : List Char) :
    (blanks ++ rest).takeWhile isBlank = blanks ++ rest.takeWhile isBlank :=
  List.takeWhile_append_of_pos h

theorem AllBlank.dropWhile {blanks : List Char} (h : AllBlank blanks) (rest : List Char) :
    (blanks ++ rest).dropWhile isBlank = rest.dropWhile isBlank :=
  List.dropWhile_append_of_pos h

section Signs

theorem signAt?_blanks {blanks : List Char} (h : AllBlank blanks) (sign : Char)
    (text : List Char) : signAt? sign (blanks ++ text) = (signAt? sign text).map (blanks ++ ·) := by
  rw [signAt?, signAt?, h.dropWhile, h.takeWhile]
  cases text.dropWhile isBlank with
  | nil => rfl
  | cons c rest => by_cases hc : c = sign <;> simp [hc]

theorem signAt?_cons {c : Char} (hc : isBlank c = false) (sign : Char) (rest : List Char) :
    signAt? sign (c :: rest) = if c = sign then some [c] else none := by
  simp [signAt?, hc]

theorem signAt?_of_allBlank {text : List Char} (h : AllBlank text) (sign : Char) :
    signAt? sign text = none := by
  simpa [signAt?] using signAt?_blanks h sign []

theorem signAt?_eq_some {sign : Char} (hsign : isBlank sign = false) {text taken : List Char} :
    signAt? sign text = some taken ↔
      ∃ blanks rest, AllBlank blanks ∧ taken = blanks ++ [sign] ∧ text = taken ++ rest := by
  constructor
  · intro h
    rcases allBlank_or_split text with hall | ⟨blanks, c, rest, rfl, hblanks, hc⟩
    · rw [signAt?_of_allBlank hall] at h
      cases h
    · rw [signAt?_blanks hblanks, signAt?_cons hc] at h
      split at h
      · next heq =>
        obtain rfl : blanks ++ [c] = taken := by simpa using h
        exact ⟨blanks, rest, hblanks, by rw [heq], by simp⟩
      · cases h
  · rintro ⟨blanks, rest, hblanks, rfl, rfl⟩
    rw [List.append_assoc, signAt?_blanks hblanks, List.cons_append, signAt?_cons hsign]
    simp

/-- Only the first character that is no blank matters. -/
theorem signAt?_append {part : List Char} (h : ∃ c ∈ part, isBlank c = false) (sign : Char)
    (rest : List Char) : signAt? sign (part ++ rest) = signAt? sign part := by
  rcases allBlank_or_split part with hall | ⟨blanks, c, more, rfl, hblanks, hc⟩
  · obtain ⟨c, hmem, hc⟩ := h
    exact absurd (hall c hmem) (by simp [hc])
  · rw [List.append_assoc, signAt?_blanks hblanks, signAt?_blanks hblanks, List.cons_append,
      signAt?_cons hc, signAt?_cons hc]

end Signs

section Operators

def operators : List String := binaryOperators ++ varargOperators

theorem isAlphanum_of_mem_operators :
    ∀ name ∈ operators, ∀ c ∈ name.toList, c.isAlphanum = true := by
  have h : (operators.all fun name => name.toList.all Char.isAlphanum) = true := by decide
  simpa only [List.all_eq_true] using h

theorem ne_nil_of_mem_operators : ∀ name ∈ operators, name.toList ≠ [] := by
  decide

theorem eq_of_prefix_of_mem_operators :
    ∀ name ∈ operators, ∀ other ∈ operators, other.toList <+: name.toList → other = name := by
  decide

/-- A word that starts a text ends before the first character of another class. -/
theorem prefix_of_prefix_append {p : Char → Bool} {word text rest : List Char}
    (hword : ∀ c ∈ word, p c = true) (hrest : ∀ c ∈ rest.head?, p c = false)
    (h : word <+: text ++ rest) : word <+: text := by
  rcases List.prefix_or_prefix_of_prefix h (List.prefix_append text rest) with h' | ⟨more, rfl⟩
  · exact h'
  · cases more with
    | nil => simp
    | cons c more =>
      obtain ⟨left, hleft⟩ := (List.prefix_append_right_inj text).mp h
      have hc := hrest c (by simp [← hleft])
      exact absurd (hword c (by simp)) (by simp [hc])

/-- What an operator takes of a text that starts with no blank. -/
def openingAt? (text : List Char) (name : String) : Option (List Char) :=
  if name.toList.isPrefixOf text then
    (signAt? '(' (text.drop name.length)).map (name.toList ++ ·)
  else none

theorem openingAt?_append (name : String) (text : List Char) :
    openingAt? (name.toList ++ text) name = (signAt? '(' text).map (name.toList ++ ·) := by
  simp [openingAt?, ← String.length_toList]

theorem openingAt?_of_not_begins {name : String} {text : List Char} (h : ¬ name.toList <+: text) :
    openingAt? text name = none := by
  rw [openingAt?, if_neg (by simpa using h)]

theorem openingAt?_eq_some {text taken : List Char} {name : String} :
    openingAt? text name = some taken ↔
      ∃ gap rest, AllBlank gap ∧ taken = name.toList ++ (gap ++ ['(']) ∧ text = taken ++ rest := by
  constructor
  · intro h
    by_cases hprefix : name.toList <+: text
    · obtain ⟨more, rfl⟩ := hprefix
      rw [openingAt?_append] at h
      obtain ⟨opening, hopening, rfl⟩ := Option.map_eq_some_iff.mp h
      obtain ⟨gap, rest, hgap, rfl, rfl⟩ := (signAt?_eq_some (by decide)).mp hopening
      exact ⟨gap, rest, hgap, rfl, by simp⟩
    · rw [openingAt?_of_not_begins hprefix] at h
      cases h
  · rintro ⟨gap, rest, hgap, rfl, rfl⟩
    rw [List.append_assoc, openingAt?_append,
      (signAt?_eq_some (by decide)).mpr ⟨gap, rest, hgap, rfl, rfl⟩]
    rfl

theorem operatorAt?_blanks {blanks : List Char} (h : AllBlank blanks) (names : List String)
    {c : Char} (hc : isBlank c = false) (rest : List Char) :
    operatorAt? names (blanks ++ c :: rest) =
      (names.findSome? (openingAt? (c :: rest))).map (blanks ++ ·) := by
  have hdrop : (c :: rest).dropWhile isBlank = c :: rest := by simp [hc]
  have htake : (c :: rest).takeWhile isBlank = [] := by simp [hc]
  rw [operatorAt?, h.dropWhile, h.takeWhile, hdrop, htake, List.append_nil, List.map_findSome?]
  congr 1
  funext name
  simp only [openingAt?, Function.comp]
  split <;> simp [Function.comp_def]

theorem operatorAt?_of_allBlank {text : List Char} (h : AllBlank text) {names : List String}
    (hnames : names ⊆ operators) : operatorAt? names text = none := by
  have hdrop : text.dropWhile isBlank = [] := by simpa using h.dropWhile []
  simp only [operatorAt?, hdrop, List.findSome?_eq_none_iff]
  intro name hname
  simp [ne_nil_of_mem_operators name (hnames hname)]

theorem operatorAt?_blanks_append {blanks : List Char} (h : AllBlank blanks) {names : List String}
    (hnames : names ⊆ operators) (text : List Char) :
    operatorAt? names (blanks ++ text) = (operatorAt? names text).map (blanks ++ ·) := by
  rcases allBlank_or_split text with hall | ⟨more, c, rest, rfl, hmore, hc⟩
  · rw [operatorAt?_of_allBlank (h.append hall) hnames, operatorAt?_of_allBlank hall hnames]
    rfl
  · rw [← List.append_assoc, operatorAt?_blanks (h.append hmore) names hc,
      operatorAt?_blanks hmore names hc, Option.map_map]
    congr 1
    funext opening
    simp

/-- The text of an operator with its parenthesis, blanks being allowed around its name. -/
def IsOpening (name : String) (text : List Char) : Prop :=
  ∃ blanks gap, AllBlank blanks ∧ AllBlank gap ∧
    text = blanks ++ (name.toList ++ (gap ++ ['(']))

theorem exists_isOpening {names : List String} (hnames : names ⊆ operators)
    {text taken : List Char} (h : operatorAt? names text = some taken) :
    ∃ name ∈ names, IsOpening name taken ∧ ∃ rest, text = taken ++ rest := by
  rcases allBlank_or_split text with hall | ⟨blanks, c, rest, rfl, hblanks, hc⟩
  · rw [operatorAt?_of_allBlank hall hnames] at h
    cases h
  · rw [operatorAt?_blanks hblanks names hc] at h
    obtain ⟨opening, hopening, rfl⟩ := Option.map_eq_some_iff.mp h
    obtain ⟨name, hname, hat⟩ := List.exists_of_findSome?_eq_some hopening
    obtain ⟨gap, left, hgap, rfl, htext⟩ := openingAt?_eq_some.mp hat
    exact ⟨name, hname, ⟨blanks, gap, hblanks, hgap, rfl⟩, left, by rw [htext]; simp⟩

/-- At the opening of one operator no other one is found. -/
theorem openingAt?_of_ne {name other : String} (hname : name ∈ operators)
    (hother : other ∈ operators) (hne : other ≠ name) {gap : List Char} (hgap : AllBlank gap)
    (rest : List Char) : openingAt? (name.toList ++ (gap ++ '(' :: rest)) other = none := by
  apply openingAt?_of_not_begins
  intro hprefix
  have hhead : ∀ c ∈ (gap ++ '(' :: rest).head?, c.isAlphanum = false := by
    intro c hc
    cases halnum : c.isAlphanum with
    | false => rfl
    | true =>
      cases gap with
      | nil =>
        obtain rfl : '(' = c := by simpa using hc
        exact absurd halnum (by decide)
      | cons d gap =>
        obtain rfl : d = c := by simpa using hc
        exact absurd (hgap d (by simp)) (by simp [isBlank_of_isAlphanum halnum])
  have hstart := prefix_of_prefix_append (isAlphanum_of_mem_operators other hother) hhead hprefix
  exact hne (eq_of_prefix_of_mem_operators name hname other hother hstart)

theorem findSome?_congr {f g : String → Option (List Char)} {names : List String}
    (h : ∀ name ∈ names, f name = g name) : names.findSome? f = names.findSome? g := by
  induction names with
  | nil => rfl
  | cons name names ih =>
    rw [List.findSome?_cons, List.findSome?_cons, h name List.mem_cons_self,
      ih fun a ha => h a (List.mem_cons_of_mem name ha)]

theorem findSome?_of_unique {f : String → Option (List Char)} {name : String}
    {names : List String} (h : ∀ other ∈ names, other ≠ name → f other = none) :
    names.findSome? f = if name ∈ names then f name else none := by
  induction names with
  | nil => rfl
  | cons other names ih =>
    have hrest := ih fun a ha => h a (List.mem_cons_of_mem other ha)
    by_cases heq : other = name
    · subst heq
      cases hf : f other with
      | some taken => simp [hf]
      | none => simp [hf, hrest]
    · have hnone := h other List.mem_cons_self heq
      simp [hnone, hrest, Ne.symm heq]

/-- An operator is read at its opening, whatever stands behind the parenthesis. -/
theorem operatorAt?_opening {names : List String} (hnames : names ⊆ operators) {name : String}
    (hname : name ∈ operators) {opening : List Char} (h : IsOpening name opening)
    (rest : List Char) :
    operatorAt? names (opening ++ rest) = if name ∈ names then some opening else none := by
  obtain ⟨blanks, gap, hblanks, hgap, rfl⟩ := h
  obtain ⟨c, word, hword⟩ := List.exists_cons_of_ne_nil (ne_nil_of_mem_operators name hname)
  have hc : isBlank c = false :=
    isBlank_of_isAlphanum (isAlphanum_of_mem_operators name hname c (by simp [hword]))
  have htext : blanks ++ (name.toList ++ (gap ++ ['('])) ++ rest =
      blanks ++ c :: (word ++ (gap ++ '(' :: rest)) := by
    simp [hword]
  have hback : c :: (word ++ (gap ++ '(' :: rest)) = name.toList ++ (gap ++ '(' :: rest) := by
    simp [hword]
  have hself : openingAt? (name.toList ++ (gap ++ '(' :: rest)) name =
      some (name.toList ++ (gap ++ ['('])) :=
    openingAt?_eq_some.mpr ⟨gap, rest, hgap, rfl, by simp⟩
  have hfind := findSome?_of_unique fun other hother hne =>
    openingAt?_of_ne hname (hnames hother) hne hgap rest
  rw [htext, operatorAt?_blanks hblanks names hc, hback, hfind, hself]
  split <;> rfl

end Operators

section RawWords

def IsWord (text : List Char) : Prop :=
  ∃ blanks c word, AllBlank blanks ∧ isBlank c = false ∧ (∀ d ∈ c :: word, isRaw d = true) ∧
    text = blanks ++ c :: word

theorem IsWord.exists_not_blank {text : List Char} (h : IsWord text) :
    ∃ c ∈ text, isBlank c = false := by
  obtain ⟨blanks, c, word, -, hc, -, rfl⟩ := h
  exact ⟨c, by simp, hc⟩

theorem rawAt?_blanks {blanks : List Char} (h : AllBlank blanks) {c : Char}
    (hc : isBlank c = false) (rest : List Char) :
    rawAt? (blanks ++ c :: rest) =
      match (c :: rest).takeWhile isRaw with
      | [] => throughLast? ' ' blanks
      | word => some (blanks ++ word) := by
  have hdrop : (c :: rest).dropWhile isBlank = c :: rest := by simp [hc]
  have htake : (c :: rest).takeWhile isBlank = [] := by simp [hc]
  change (match ((blanks ++ c :: rest).dropWhile isBlank).takeWhile isRaw with
      | [] => throughLast? ' ' ((blanks ++ c :: rest).takeWhile isBlank)
      | word => some ((blanks ++ c :: rest).takeWhile isBlank ++ word)) = _
  rw [h.dropWhile, h.takeWhile, hdrop, htake, List.append_nil]

theorem rawAt?_of_allBlank {text : List Char} (h : AllBlank text) :
    rawAt? text = throughLast? ' ' text := by
  have hdrop : text.dropWhile isBlank = [] := by simpa using h.dropWhile []
  have htake : text.takeWhile isBlank = text := by simpa using h.takeWhile []
  rw [rawAt?, hdrop, htake]
  rfl

theorem rawAt?_append {word : List Char} (h : IsWord word) {rest : List Char}
    (hrest : ∀ c ∈ rest.head?, isRaw c = false) : rawAt? (word ++ rest) = some word := by
  obtain ⟨blanks, c, more, hblanks, hc, hraw, rfl⟩ := h
  have hstop : rest.takeWhile isRaw = [] := by
    cases rest with
    | nil => rfl
    | cons d rest => simp [hrest d rfl]
  have htake : (c :: (more ++ rest)).takeWhile isRaw = c :: more := by
    rw [← List.cons_append, List.takeWhile_append_of_pos hraw, hstop, List.append_nil]
  rw [List.append_assoc, List.cons_append, rawAt?_blanks hblanks hc, htake]

theorem throughLast?_eq_some {mark : Char} {text taken : List Char}
    (h : throughLast? mark text = some taken) :
    ∃ rest, text = taken ++ rest ∧ taken.getLast? = some mark ∧ throughLast? mark rest = none := by
  induction text generalizing taken with
  | nil => cases h
  | cons c text ih =>
    rw [throughLast?] at h
    split at h
    · next found hfound =>
      obtain ⟨rest, rfl, hlast, hnone⟩ := ih hfound
      obtain rfl := Option.some.inj h
      exact ⟨rest, rfl, by rw [List.getLast?_cons, hlast]; rfl, hnone⟩
    · next hnone =>
      split at h
      · next hc =>
        obtain rfl := Option.some.inj h
        exact ⟨text, rfl, by simp [hc], hnone⟩
      · cases h

/-- A raw token is a word with no raw character behind it, or blanks up to a space, where no word
follows and no further raw token does. -/
theorem rawAt?_eq_some {text taken : List Char} (h : rawAt? text = some taken) :
    ∃ rest, text = taken ++ rest ∧
      ((IsWord taken ∧ ∀ c ∈ rest.head?, isRaw c = false) ∨
        (AllBlank taken ∧ taken.getLast? = some ' ' ∧ rawAt? rest = none)) := by
  rcases allBlank_or_split text with hall | ⟨blanks, c, rest, rfl, hblanks, hc⟩
  · rw [rawAt?_of_allBlank hall] at h
    obtain ⟨rest, rfl, hlast, hnone⟩ := throughLast?_eq_some h
    have hrest : AllBlank rest := fun d hd => hall d (by simp [hd])
    exact ⟨rest, rfl, .inr ⟨fun d hd => hall d (by simp [hd]), hlast,
      by rw [rawAt?_of_allBlank hrest, hnone]⟩⟩
  · rw [rawAt?_blanks hblanks hc] at h
    split at h
    · next hword =>
      obtain ⟨left, rfl, hlast, hnone⟩ := throughLast?_eq_some h
      have hleft : AllBlank left := fun d hd => hblanks d (by simp [hd])
      exact ⟨left ++ c :: rest, by simp, .inr ⟨fun d hd => hblanks d (by simp [hd]), hlast,
        by rw [rawAt?_blanks hleft hc, hword, hnone]⟩⟩
    · next hword =>
      obtain rfl := Option.some.inj h
      have hcraw : isRaw c = true := by
        cases hraw : isRaw c with
        | true => rfl
        | false => exact absurd (by simp [hraw]) hword
      refine ⟨rest.dropWhile isRaw, by simp [hcraw], .inl ⟨?_, ?_⟩⟩
      · refine ⟨blanks, c, rest.takeWhile isRaw, hblanks, hc, ?_, by simp [hcraw]⟩
        intro d hd
        rcases List.mem_cons.mp hd with rfl | hd
        · exact hcraw
        · exact List.mem_takeWhile_imp hd
      · intro d hd
        have := List.head?_dropWhile_not isRaw rest
        rw [Option.mem_def.mp hd] at this
        simpa using this

/-- Where a word is followed by a text that is not all blank, no operator is found that is not found
without what comes then. -/
theorem operatorAt?_append {names : List String} (hnames : names ⊆ operators)
    {word next : List Char} (h : IsWord word) (hnext : ∃ c ∈ next, isBlank c = false)
    (hhead : ∀ c ∈ next.head?, isRaw c = false) (rest : List Char) :
    operatorAt? names (word ++ (next ++ rest)) = operatorAt? names (word ++ next) := by
  obtain ⟨blanks, c, more, hblanks, hc, -, rfl⟩ := h
  obtain ⟨d, next', rfl⟩ := List.exists_cons_of_ne_nil
    (show next ≠ [] by rintro rfl; simp at hnext)
  have hd : ∀ text : List Char, ∀ a ∈ (d :: text).head?, a.isAlphanum = false := by
    intro text a ha
    obtain rfl : d = a := by simpa using ha
    have hraw := hhead d rfl
    cases halnum : d.isAlphanum with
    | false => rfl
    | true => exact absurd hraw (by simp [isRaw, halnum])
  have hsame : names.findSome? (openingAt? (c :: (more ++ (d :: next' ++ rest)))) =
      names.findSome? (openingAt? (c :: (more ++ d :: next'))) := by
    apply findSome?_congr
    intro name hname
    have hletters := isAlphanum_of_mem_operators name (hnames hname)
    by_cases hprefix : name.toList <+: c :: more
    · obtain ⟨left, hleft⟩ := hprefix
      have hfar : ∃ a ∈ left ++ d :: next', isBlank a = false := by
        obtain ⟨a, ha, hblank⟩ := hnext
        exact ⟨a, by simp [List.mem_cons.mp ha], hblank⟩
      have hlong : c :: (more ++ (d :: next' ++ rest)) =
          name.toList ++ ((left ++ d :: next') ++ rest) := by
        rw [← List.cons_append, ← hleft]
        simp
      have hshort : c :: (more ++ d :: next') = name.toList ++ (left ++ d :: next') := by
        rw [← List.cons_append, ← hleft]
        simp
      rw [hlong, hshort, openingAt?_append, openingAt?_append, signAt?_append hfar]
    · have hlong : ¬ name.toList <+: c :: (more ++ (d :: next' ++ rest)) := fun hlong =>
        hprefix (prefix_of_prefix_append hletters (hd _) hlong)
      have hshort : ¬ name.toList <+: c :: (more ++ d :: next') := fun hshort =>
        hprefix (prefix_of_prefix_append hletters (hd _) hshort)
      rw [openingAt?_of_not_begins hlong, openingAt?_of_not_begins hshort]
  simp only [List.append_assoc, List.cons_append]
  rw [operatorAt?_blanks hblanks names hc, operatorAt?_blanks hblanks names hc]
  rw [← hsame]
  rfl

end RawWords

section Contents

/-- What may stand between two marks: no mark but behind a backslash, and no other backslash. -/
inductive IsContents (mark : Char) : List Char → Prop
  | nil : IsContents mark []
  | plain {c : Char} {rest : List Char} (not_mark : c ≠ mark) (not_backslash : c ≠ '\\')
      (h : IsContents mark rest) : IsContents mark (c :: rest)
  | escaped {rest : List Char} (h : IsContents mark rest) : IsContents mark ('\\' :: mark :: rest)

theorem IsContents.append {mark : Char} {text more : List Char} (h : IsContents mark text)
    (hmore : IsContents mark more) : IsContents mark (text ++ more) := by
  induction h with
  | nil => exact hmore
  | plain not_mark not_backslash _ ih => exact .plain not_mark not_backslash ih
  | escaped _ ih => exact .escaped ih

theorem isContents_contents (mark : Char) (text : List Char) :
    IsContents mark (contents mark text) := by
  fun_induction contents mark text with
  | case1 rest ih => exact .escaped ih
  | case2 c rest h => exact .nil
  | case3 c rest _ h => exact .nil
  | case4 c rest _ h ih => exact .plain (fun hc => h (.inl hc)) (fun hc => h (.inr hc)) ih
  | case5 => exact .nil

theorem contents_cons {mark c : Char} (not_mark : c ≠ mark) (not_backslash : c ≠ '\\')
    (rest : List Char) : contents mark (c :: rest) = c :: contents mark rest := by
  rw [contents.eq_def]
  split
  · next heq => exact absurd (List.cons.inj heq).1 not_backslash
  · next d more _ heq =>
    obtain ⟨rfl, rfl⟩ := List.cons.inj heq
    simp [not_mark, not_backslash]
  · next heq => cases heq

theorem contents_mark {mark : Char} (h : mark ≠ '\\') (rest : List Char) :
    contents mark (mark :: rest) = [] := by
  rw [contents.eq_def]
  split
  · next heq => exact absurd (List.cons.inj heq).1 h
  · next d more _ heq =>
    obtain ⟨rfl, rfl⟩ := List.cons.inj heq
    simp
  · rfl

/-- Contents are taken to their end where the closing mark follows, or nothing. -/
theorem contents_append {mark : Char} (hmark : mark ≠ '\\') {taken : List Char}
    (h : IsContents mark taken) {rest : List Char} (hrest : ∀ c ∈ rest.head?, c = mark) :
    contents mark (taken ++ rest) = taken := by
  induction h with
  | nil =>
    cases rest with
    | nil => rfl
    | cons c rest =>
      obtain rfl := hrest c rfl
      exact contents_mark hmark rest
  | plain not_mark not_backslash _ ih =>
    rw [List.cons_append, contents_cons not_mark not_backslash, ih]
  | escaped _ ih => simp [contents, ih]

/-- Behind contents there are no further contents. -/
theorem contents_split (mark : Char) (text : List Char) :
    ∃ rest, text = contents mark text ++ rest ∧ contents mark rest = [] := by
  fun_induction contents mark text with
  | case1 rest ih =>
    obtain ⟨left, htext, hleft⟩ := ih
    exact ⟨left, by rw [List.cons_append, List.cons_append, ← htext], hleft⟩
  | case2 c rest h => exact ⟨'\\' :: c :: rest, rfl, by simp [contents, h]⟩
  | case3 c rest hpattern h =>
    refine ⟨c :: rest, rfl, ?_⟩
    rw [contents.eq_def]
    split
    · next heq =>
      obtain ⟨rfl, rfl⟩ := List.cons.inj heq
      exact absurd rfl (hpattern _ _ rfl)
    · next heq =>
      obtain ⟨rfl, rfl⟩ := List.cons.inj heq
      simp [h]
    · rfl
  | case4 c rest _ h ih =>
    obtain ⟨left, htext, hleft⟩ := ih
    exact ⟨left, by rw [List.cons_append, ← htext], hleft⟩
  | case5 => exact ⟨[], rfl, rfl⟩

end Contents
end NextWord.Filter
