import Mathlib.Data.List.Basic
import Mathlib.Data.List.TakeWhile
import NextWord.Completion.Snippet
import NextWord.Text.WordChar

/-!
# Names of variables in snippets

Behind the function that reads a variable the names of all variables are offered for it, as long as
nothing but letters of a name has been typed. A name may have digits and underscores in it. Once one
of these is typed no name is offered, and the function is offered as if it had not been typed.
-/

namespace NextWord.Snippet

open Text (isBlank)

section OpenCall

/-- Whether a text is the function that reads a variable, blanks, a word of letters or none, and
blanks or none. -/
def IsOpenCall (text : List Char) : Prop :=
  ∃ blanks letters more, text = readsVariable.toList ++ (blanks ++ (letters ++ more)) ∧
    blanks ≠ [] ∧ (∀ c ∈ blanks, isBlank c = true) ∧ (∀ c ∈ letters, c.isAlpha = true) ∧
      ∀ c ∈ more, isBlank c = true

theorem isBlank_of_isAlpha {c : Char} (h : c.isAlpha = true) : isBlank c = false :=
  Text.isBlank_of_isAlphanum (by simp [Char.isAlphanum, h])

theorem isOpenCall_append (rest : List Char) :
    isOpenCall (readsVariable.toList ++ rest) = (rest.head?.any isBlank &&
      ((rest.dropWhile isBlank).dropWhile Char.isAlpha).all isBlank) := by
  have hprefix : readsVariable.toList.isPrefixOf (readsVariable.toList ++ rest) = true :=
    List.isPrefixOf_iff_prefix.mpr (List.prefix_append _ rest)
  rw [isOpenCall, hprefix, Bool.true_and, ← String.length_toList, List.drop_left]

theorem isOpenCall_iff {text : List Char} : isOpenCall text = true ↔ IsOpenCall text := by
  constructor
  · intro h
    obtain ⟨rest, rfl⟩ : readsVariable.toList <+: text :=
      List.isPrefixOf_iff_prefix.mp ((Bool.and_eq_true _ _).mp h).1
    rw [isOpenCall_append, Bool.and_eq_true, List.all_eq_true] at h
    obtain ⟨hhead, hmore⟩ := h
    refine ⟨rest.takeWhile isBlank, (rest.dropWhile isBlank).takeWhile Char.isAlpha,
      (rest.dropWhile isBlank).dropWhile Char.isAlpha, ?_, ?_,
      fun c hc => List.mem_takeWhile_imp hc, fun c hc => List.mem_takeWhile_imp hc, hmore⟩
    · rw [List.takeWhile_append_dropWhile, List.takeWhile_append_dropWhile]
    · cases rest with
      | nil => cases hhead
      | cons b rest =>
        have hb : isBlank b = true := hhead
        simp [hb]
  · rintro ⟨blanks, letters, more, rfl, hne, hblanks, hletters, hmore⟩
    rw [isOpenCall_append, Bool.and_eq_true, List.all_eq_true]
    constructor
    · cases blanks with
      | nil => exact absurd rfl hne
      | cons b blanks => exact hblanks b List.mem_cons_self
    · rw [List.dropWhile_append_of_pos hblanks]
      cases letters with
      | nil =>
        rw [List.nil_append, List.dropWhile_eq_nil_iff.mpr hmore]
        simp
      | cons l letters =>
        have hl : ¬ isBlank l = true := by
          simp [isBlank_of_isAlpha (hletters l List.mem_cons_self)]
        rw [List.cons_append, List.dropWhile_cons_of_neg hl, ← List.cons_append,
          List.dropWhile_append_of_pos hletters]
        exact fun c hc => hmore c ((List.dropWhile_suffix Char.isAlpha).mem hc)

/-- A variable is asked for at the end of a text that ends with an open call. -/
theorem asksForVariable_iff {text : List Char} :
    asksForVariable text = true ↔ ∃ call, call <:+ text ∧ IsOpenCall call := by
  induction text with
  | nil =>
    constructor
    · intro h
      cases h
    · rintro ⟨call, hsuffix, blanks, letters, more, rfl, -⟩
      simp [readsVariable] at hsuffix
  | cons c rest ih =>
    rw [asksForVariable, Bool.or_eq_true, isOpenCall_iff, ih]
    constructor
    · rintro (h | ⟨call, hsuffix, h⟩)
      · exact ⟨c :: rest, List.suffix_refl _, h⟩
      · exact ⟨call, hsuffix.trans (List.suffix_cons c rest), h⟩
    · rintro ⟨call, hsuffix, h⟩
      rcases List.suffix_cons_iff.mp hsuffix with rfl | hbehind
      · exact .inl h
      · exact .inr ⟨call, hbehind, h⟩

/-- An open call ends with a blank and letters behind it, or with a blank. -/
theorem IsOpenCall.exists_lastWord {call : List Char} (h : IsOpenCall call) :
    ∃ before b word, call = before ++ b :: word ∧ isBlank b = true ∧
      ∀ c ∈ word, c.isAlpha = true := by
  obtain ⟨blanks, letters, more, rfl, hne, hblanks, hletters, hmore⟩ := h
  rcases List.eq_nil_or_concat more with rfl | ⟨more, b, rfl⟩
  · obtain ⟨blanks, b, rfl⟩ := (List.eq_nil_or_concat blanks).resolve_left hne
    exact ⟨readsVariable.toList ++ blanks, b, letters, by simp, hblanks b (by simp), hletters⟩
  · exact ⟨readsVariable.toList ++ (blanks ++ (letters ++ more)), b, [], by simp,
      hmore b (by simp), by simp⟩

/-- What stands behind the last blank of a text. -/
theorem eq_of_append_cons_eq {before before' word word' : List Char} {b b' : Char}
    (hb : isBlank b = true) (hb' : isBlank b' = true) (hword : ∀ c ∈ word, isBlank c = false)
    (hword' : ∀ c ∈ word', isBlank c = false) (h : before ++ b :: word = before' ++ b' :: word') :
    word = word' := by
  have htake {before word : List Char} {b : Char} (hb : isBlank b = true)
      (hword : ∀ c ∈ word, isBlank c = false) :
      (before ++ b :: word).reverse.takeWhile (fun c => !isBlank c) = word.reverse := by
    rw [List.reverse_append, List.reverse_cons, List.append_assoc,
      List.takeWhile_append_of_pos (by simpa using hword)]
    simp [hb]
  rw [← List.reverse_inj, ← htake hb hword, h, htake hb' hword']

/-- Behind the function that reads a variable and a blank, names are asked for exactly if the word
that has been typed is made of letters. -/
theorem asksForVariable_append_iff {before word : List Char}
    (hword : ∀ c ∈ word, isBlank c = false) :
    asksForVariable (before ++ (readsVariable.toList ++ ' ' :: word)) = true ↔
      ∀ c ∈ word, c.isAlpha = true := by
  have hspace : isBlank ' ' = true := by decide
  rw [asksForVariable_iff]
  constructor
  · -- The call and the text that was typed end behind the same blank.
    rintro ⟨call, ⟨front, htext⟩, hcall⟩
    obtain ⟨start, b, letters, rfl, hb, hletters⟩ := hcall.exists_lastWord
    rw [← List.append_assoc, ← List.append_assoc] at htext
    rw [← eq_of_append_cons_eq hb hspace (fun c hc => isBlank_of_isAlpha (hletters c hc)) hword
      htext]
    exact hletters
  · intro hletters
    refine ⟨_, List.suffix_append before _, [' '], word, [], ?_, List.cons_ne_nil _ _, ?_, hletters,
      List.forall_mem_nil _⟩
    · simp
    · simpa using hspace

end OpenCall

section Offering

def callOf (name : String) : String :=
  readsVariable ++ " \"" ++ name ++ "\""

def adding (typed function ending : String) : String :=
  String.ofList (opening typed.toList) ++ function ++ ending

/-- Snippets are told apart by the functions they add. -/
theorem function_eq_of_adding_eq {typed function function' ending ending' : String}
    (hending : ending ∈ ends) (hending' : ending' ∈ ends)
    (h : adding typed function ending = adding typed function' ending') :
    function = function' := by
  have htexts : function.toList ++ ending.toList = function'.toList ++ ending'.toList := by
    simpa [adding] using congrArg String.toList h
  -- The two ends differ in their last characters.
  have hsame : ending = ending' := by
    have hlast := congrArg List.getLast? htexts
    rcases List.mem_pair.mp hending with rfl | rfl <;>
      rcases List.mem_pair.mp hending' with rfl | rfl <;> simp at hlast ⊢
  rw [hsame] at htexts
  exact String.toList_inj.mp (List.append_cancel_right htexts)

theorem adding_mem_all_iff {typed function ending : String} {names : List String}
    (hending : ending ∈ ends) :
    adding typed function ending ∈ all typed names ↔ function ∈ functions typed.toList names := by
  rw [all, List.mem_flatMap]
  constructor
  · rintro ⟨other, hother, hmem⟩
    obtain ⟨ending', hending', hsame⟩ := List.mem_map.mp hmem
    rwa [function_eq_of_adding_eq hending hending' hsame.symm]
  · intro hmem
    exact ⟨function, hmem, List.mem_map.mpr ⟨ending, hending, rfl⟩⟩

/-- No function of another use begins like the one that reads a variable. -/
theorem not_prefix_of_mem {function : String}
    (h : function ∈ Vocabulary.generatorFunctions ∨ function ∈ Vocabulary.pipelineFunctions) :
    ¬ readsVariable.toList <+: function.toList := by
  have hnone : ∀ other ∈ Vocabulary.generatorFunctions ++ Vocabulary.pipelineFunctions,
      ¬ readsVariable.toList <+: other.toList := by
    decide
  exact hnone function (List.mem_append.mpr h)

theorem mem_functions_iff {typed : List Char} {names : List String} {function : String}
    (h : readsVariable.toList <+: function.toList) :
    function ∈ functions typed names ↔
      if asksForVariable typed then ∃ name ∈ names, callOf name = function
      else function = readsVariable := by
  have hgenerator : function ∉ Vocabulary.generatorFunctions :=
    fun hmem => not_prefix_of_mem (.inl hmem) h
  have hpipeline : function ∉ if typed.contains '|' then Vocabulary.pipelineFunctions else [] := by
    split
    · exact fun hmem => not_prefix_of_mem (.inr hmem) h
    · exact List.not_mem_nil
  rw [functions, List.mem_append, List.mem_append,
    or_iff_right (not_or.mpr ⟨hgenerator, hpipeline⟩)]
  split
  · simp [Text.sorted, callOf]
  · exact List.mem_singleton

theorem callOf_ne_readsVariable (name : String) : callOf name ≠ readsVariable := by
  intro h
  simpa [callOf, readsVariable] using congrArg String.toList h

theorem adding_callOf_mem_all_iff {typed name ending : String} {names : List String}
    (hending : ending ∈ ends) :
    adding typed (callOf name) ending ∈ all typed names ↔
      asksForVariable typed.toList = true ∧ name ∈ names := by
  have hprefix : readsVariable.toList <+: (callOf name).toList := by
    simp [callOf]
  rw [adding_mem_all_iff hending, mem_functions_iff hprefix]
  split
  · next hasks => simp [hasks, callOf]
  · next hasks => simp [hasks, callOf_ne_readsVariable]

theorem adding_readsVariable_mem_all_iff {typed ending : String} {names : List String}
    (hending : ending ∈ ends) :
    adding typed readsVariable ending ∈ all typed names ↔
      ¬ asksForVariable typed.toList = true := by
  rw [adding_mem_all_iff hending, mem_functions_iff (List.prefix_refl _)]
  split
  · next hasks => simp [hasks, callOf_ne_readsVariable]
  · next hasks => simp [hasks]

end Offering

section Typing

/-- What has been typed when the function that reads a variable, a space and the beginning of a name
stand behind other text. -/
def typing (before word : List Char) : String :=
  String.ofList (before ++ (readsVariable.toList ++ ' ' :: word))

/-- Behind the function that reads a variable, a space and the beginning of a name, all variables
are offered, and the function is not offered without one, exactly if that beginning is made of
letters. If it is not, no variable is offered and the function is. -/
theorem variables_offered_iff_isAlpha (before word : List Char) (names : List String)
    (hword : ∀ c ∈ word, isBlank c = false) :
    ∀ ending ∈ ends,
      (∀ name, adding (typing before word) (callOf name) ending ∈ all (typing before word) names ↔
        (∀ c ∈ word, c.isAlpha = true) ∧ name ∈ names) ∧
      (adding (typing before word) readsVariable ending ∈ all (typing before word) names ↔
        ¬ ∀ c ∈ word, c.isAlpha = true) := by
  have hasks : asksForVariable (typing before word).toList = true ↔
      ∀ c ∈ word, c.isAlpha = true := by
    rw [typing, String.toList_ofList, asksForVariable_append_iff hword]
  intro ending hending
  rw [adding_readsVariable_mem_all_iff hending, hasks]
  refine ⟨fun name => ?_, Iff.rfl⟩
  rw [adding_callOf_mem_all_iff hending, hasks]

/-- Behind the first letters of one name all names are offered. -/
theorem variables_offered_home :
    "\x7b\x7b date | env \"STORE_ID\" \x7d\x7d" ∈
        all "\x7b\x7b date | env HO" ["HOME", "STORE_ID"] ∧
      "\x7b\x7b date | env |" ∉ all "\x7b\x7b date | env HO" ["HOME", "STORE_ID"] := by
  have hoffered := variables_offered_iff_isAlpha "\x7b\x7b date | ".toList "HO".toList
    ["HOME", "STORE_ID"] (by simp [isBlank])
  have hletters : ∀ c ∈ "HO".toList, c.isAlpha = true := by simp
  have hstore := ((hoffered " \x7d\x7d" (by decide)).1 "STORE_ID").mpr ⟨hletters, by decide⟩
  have hbare := (not_congr (hoffered " |" (by decide)).2).mpr (not_not_intro hletters)
  exact ⟨hstore, hbare⟩

/-- Behind an underscore of a name that name is not offered, and the function that reads it is. -/
theorem not_forall_variables_offered :
    ¬ ∀ (names : List String) (name : String) (before word : List Char), name ∈ names →
      (∀ c ∈ name.toList, c.isAlphanum = true ∨ c = '_') →
      (∀ c ∈ name.toList.head?, c.isDigit = false) →
      word <+: name.toList → (∀ c ∈ before.getLast?, c = ' ') →
        (∀ other ∈ names, ∃ snippet ∈ all (typing before word) names,
          (callOf other).toList <:+: snippet.toList) ∧
        ∀ ending ∈ ends,
          adding (typing before word) readsVariable ending ∉ all (typing before word) names := by
  intro claim
  have hnone := (claim ["STORE_ID"] "STORE_ID" "\x7b\x7b ".toList "STORE_".toList (by decide)
    (by simp) (by simp) (by decide) (by simp)).2 " |" (by decide)
  have hbare : asksForVariable (typing "\x7b\x7b ".toList "STORE_".toList).toList = false := by
    decide
  rw [adding_readsVariable_mem_all_iff (by decide), hbare] at hnone
  exact hnone (by decide)

end Typing

end NextWord.Snippet
