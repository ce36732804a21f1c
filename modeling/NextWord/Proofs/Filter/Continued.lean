import Mathlib.Data.List.Basic
import NextWord.Filter.Completion
import NextWord.Proofs.Filter.Reading

/-!
# Continuing a filter that was read

A text behind a token of a filter is read from the mode in which that token is read, and the tokens
before it stay as they are. Behind a sign or an operator the text is read from the next mode on; a
word in a call may go on with spaces before a sign, and contents may go on up to the closing mark.
-/

namespace NextWord.Filter

open Text (isBlank)

def Readable (text : List Char) : Prop :=
  ∃ tokens, lex text = .ok tokens

section Trimming

theorem dropWhile_eq_self_of_head? {text : List Char} (h : text.head? ≠ some ' ') :
    text.dropWhile (· == ' ') = text := by
  cases text with
  | nil => rfl
  | cons c rest => exact List.dropWhile_cons_of_neg (by simpa using h)

theorem trimSpaces_append {front middle : List Char} (hfront : ∀ c ∈ front, c = ' ')
    (hhead : middle.head? ≠ some ' ') (hlast : middle.getLast? ≠ some ' ') :
    trimSpaces (front ++ middle) = middle := by
  have hdrop : (front ++ middle).dropWhile (· == ' ') = middle := by
    rw [List.dropWhile_append_of_pos (by simpa using hfront), dropWhile_eq_self_of_head? hhead]
  rw [trimSpaces, hdrop, dropWhile_eq_self_of_head? (by simpa using hlast), List.reverse_reverse]

theorem trimSpaces_eq_self {text : List Char} (hhead : text.head? ≠ some ' ')
    (hlast : text.getLast? ≠ some ' ') : trimSpaces text = text := by
  have hnone : ∀ c ∈ ([] : List Char), c = ' ' := by simp
  simpa using trimSpaces_append hnone hhead hlast

theorem exists_trimSpaces (text : List Char) : ∃ front back,
    (∀ c ∈ front, c = ' ') ∧ (∀ c ∈ back, c = ' ') ∧ text = front ++ (trimSpaces text ++ back) ∧
      (trimSpaces text).head? ≠ some ' ' ∧ (trimSpaces text).getLast? ≠ some ' ' := by
  let middle := text.dropWhile (· == ' ')
  let back := (middle.reverse.takeWhile (· == ' ')).reverse
  have hspaces : ∀ part : List Char, ∀ c ∈ part.takeWhile (· == ' '), c = ' ' := by
    intro part c hc
    simpa using List.mem_takeWhile_imp hc
  have hfirst : ∀ part : List Char, (part.dropWhile (· == ' ')).head? ≠ some ' ' := by
    intro part hpart
    have := List.head?_dropWhile_not (· == ' ') part
    simp [hpart] at this
  have hmiddle : middle = trimSpaces text ++ back := by
    rw [trimSpaces, ← List.reverse_append, List.takeWhile_append_dropWhile, List.reverse_reverse]
  refine ⟨text.takeWhile (· == ' '), back, hspaces text, fun c hc => ?_, ?_, ?_, ?_⟩
  · exact hspaces middle.reverse c (by simpa [back] using hc)
  · rw [← hmiddle, List.takeWhile_append_dropWhile]
  · intro hhead
    apply hfirst text
    change middle.head? = some ' '
    rw [hmiddle, List.head?_append, hhead]
    rfl
  · rw [trimSpaces, List.getLast?_reverse]
    exact hfirst middle.reverse

end Trimming

section Tokens

variable {typed : List Char} {before after : List Token} {next : Token}

/-- The raw tokens of a filter are words. -/
theorem isWord_of_lex {tokens : List Token} (h : lex typed = .ok tokens) :
    ∀ token ∈ tokens, token.kind = .rawLiteral → IsWord token.text := by
  obtain ⟨-, -, -, -, -, -, hlast⟩ := exists_trimSpaces typed
  exact isWord_of_tokensFrom h hlast

theorem next?_of_lex {tokens : List Token} (h : lex typed = .ok tokens) :
    ∀ token ∈ tokens, token.kind.next? token.before = some token.after := by
  intro token htoken
  obtain ⟨_, _, hat⟩ := exists_tokenAt?_of_mem h token htoken
  exact (tokenAt?_eq_some.mp hat).2.2.1

theorem text_ne_nil_of_lex {tokens : List Token} (h : lex typed = .ok tokens) :
    ∀ token ∈ tokens, token.text ≠ [] :=
  (tokensFrom_eq_ok_iff.mp h).text_ne_nil

/-- Contents between marks have no mark of their own but behind backslashes. -/
theorem isContents_of_lex {tokens : List Token} (h : lex typed = .ok tokens) {token : Token}
    (htoken : token ∈ tokens) {mark : Char} (hmark : token.kind.mark? = some mark) :
    IsContents mark token.text := by
  obtain ⟨_, rest, hat⟩ := exists_tokenAt?_of_mem h token htoken
  obtain ⟨-, -, -, htaken, -⟩ := tokenAt?_eq_some.mp hat
  obtain ⟨-, hcontents⟩ := TokenKind.taken?_of_mark_eq_some hmark htaken
  exact hcontents ▸ isContents_contents mark _

theorem getLast?_ne_space_of_isClosed {tokens : List Token} (h : lex typed = .ok tokens)
    {token : Token} (htoken : token ∈ tokens) (closed : token.kind.isClosed) :
    token.text.getLast? ≠ some ' ' := by
  obtain ⟨_, rest, hat⟩ := exists_tokenAt?_of_mem h token htoken
  obtain ⟨-, -, -, htaken, -⟩ := tokenAt?_eq_some.mp hat
  obtain ⟨front, c, htext, hblank⟩ := exists_concat_of_isClosed closed htaken
  have hspace : c ≠ ' ' := by rintro rfl; exact absurd hblank (by decide)
  simpa [htext] using hspace

/-- A sign or an operator of a filter is read alike whatever comes behind it. -/
theorem reads_append_of_isClosed {tokens : List Token} (h : lex typed = .ok tokens) {token : Token}
    (htoken : token ∈ tokens) (closed : token.kind.isClosed) (other : List Char) :
    Reads token.before (token.text ++ other) ↔ Reads token.after other := by
  obtain ⟨_, _, hat⟩ := exists_tokenAt?_of_mem h token htoken
  exact reads_append (tokenAt?_append_of_isClosed hat closed other) rfl

/-- A text put behind a token is read from that token on. -/
theorem lex_consumed_append (h : lex typed = .ok (before ++ next :: after)) {other : List Char}
    (hother : (next.text ++ other).getLast? ≠ some ' ') :
    lex (next.consumed ++ other) =
      (tokensFrom 0 next.before (spelled before) (next.text ++ other)).map (before ++ ·) := by
  obtain ⟨front, back, -, -, -, hhead, -⟩ := exists_trimSpaces typed
  have hconsumed : next.consumed ++ other = spelled before ++ (next.text ++ other) := by
    simp [consumed_eq h]
  have hne : next.text ≠ [] := text_ne_nil_of_lex h next (by simp)
  have hstart : (spelled before ++ (next.text ++ other)).head? = (trimSpaces typed).head? := by
    have hspelled : trimSpaces typed = spelled before ++ (next.text ++ spelled after) := by
      simpa [spelled] using spelled_of_tokensFrom h
    have hboth : spelled before ++ next.text ≠ [] := List.append_ne_nil_of_right_ne_nil _ hne
    rw [hspelled, ← List.append_assoc, ← List.append_assoc, List.head?_append_of_ne_nil _ hboth,
      List.head?_append_of_ne_nil _ hboth]
  have hend : (spelled before ++ (next.text ++ other)).getLast? ≠ some ' ' := by
    rw [List.getLast?_append_of_ne_nil _ (List.append_ne_nil_of_left_ne_nil hne other)]
    exact hother
  rw [lex, hconsumed, trimSpaces_eq_self (hstart ▸ hhead) hend]
  exact tokensFrom_continue h (isWord_of_lex h) other

/-- Behind a sign or an operator of a filter a text is read from the mode that it leaves. -/
theorem lex_consumed_append_of_isClosed (h : lex typed = .ok (before ++ next :: after))
    (closed : next.kind.isClosed) (other : List Char) (hother : other.getLast? ≠ some ' ') :
    lex (next.consumed ++ other) =
      (tokensFrom 0 next.after next.consumed other).map (before ++ next :: ·) := by
  have hmem : next ∈ before ++ next :: after := by simp
  have hlast : (next.text ++ other).getLast? ≠ some ' ' := by
    rw [List.getLast?_append]
    cases hcase : other.getLast? with
    | none => simpa using getLast?_ne_space_of_isClosed h hmem closed
    | some c => simpa [hcase] using hother
  obtain ⟨consumed, rest, hat⟩ := exists_tokenAt?_of_mem h next hmem
  have hconsumed : next.consumed = spelled before ++ next.text := by simpa using consumed_eq h
  have hsame : tokenAt? next.before (spelled before) (next.text ++ other) = some next := by
    obtain ⟨-, -, hlegal, htaken, hearlier⟩ :=
      tokenAt?_eq_some.mp (tokenAt?_append_of_isClosed hat closed other)
    exact tokenAt?_eq_some.mpr ⟨rfl, hconsumed, hlegal, htaken, hearlier⟩
  rw [lex_consumed_append h hlast, tokensFrom_of_tokenAt? hsame]
  cases tokensFrom 0 next.after next.consumed other <;> rfl

/-- A text put behind all that was typed follows the last token, spaces being between them. -/
theorem lex_typed_append (h : lex typed = .ok (before ++ [next])) :
    ∃ spaces, (∀ c ∈ spaces, c = ' ') ∧ ∀ other, other ≠ [] → other.getLast? ≠ some ' ' →
      lex (typed ++ other) =
        (tokensFrom 0 next.before (spelled before) (next.text ++ (spaces ++ other))).map
          (before ++ ·) := by
  obtain ⟨front, back, hfront, hback, htyped, hhead, -⟩ := exists_trimSpaces typed
  refine ⟨back, hback, fun other hne hother => ?_⟩
  have hspelled : trimSpaces typed = spelled before ++ next.text := by
    simpa [spelled] using spelled_of_tokensFrom h
  have hnext : next.text ≠ [] := text_ne_nil_of_lex h next (by simp)
  have hsplit : typed ++ other = front ++ (spelled before ++ (next.text ++ (back ++ other))) := by
    rw [htyped, hspelled]
    simp
  have hstart : (spelled before ++ (next.text ++ (back ++ other))).head? ≠ some ' ' := by
    have hboth : spelled before ++ next.text ≠ [] := List.append_ne_nil_of_right_ne_nil _ hnext
    rw [← List.append_assoc, List.head?_append_of_ne_nil _ hboth, ← hspelled]
    exact hhead
  have hend : (spelled before ++ (next.text ++ (back ++ other))).getLast? ≠ some ' ' := by
    rw [← List.append_assoc, ← List.append_assoc, List.getLast?_append_of_ne_nil _ hne]
    exact hother
  rw [lex, hsplit, trimSpaces_append hfront hstart hend]
  exact tokensFrom_continue h (isWord_of_lex h) _

end Tokens

section Modes

/-- A sign leads to the mode behind it. -/
theorem reads_sign (kind : TokenKind) {sign : Char} {mode after : Mode}
    (hsign : kind.sign? = some sign) (hnext : kind.next? mode = some after) {blanks : List Char}
    (h : AllBlank blanks) (rest : List Char) :
    Reads mode (blanks ++ sign :: rest) ↔ Reads after rest := by
  have hat := tokenAt?_sign hsign hnext h [] rest
  exact reads_append hat (by simp)

/-- What is offered for an operator is read as one where a call may begin. -/
theorem exists_tokenAt?_filterOperator {op : String} (h : op ∈ Vocabulary.filterOperators)
    (consumed : List Char) : ∃ kind : TokenKind, kind.isOperator = true ∧
      tokenAt? .regular consumed op.toList =
        some ⟨kind, op.toList, consumed ++ op.toList, .regular, .call⟩ := by
  have hnames : ∀ op ∈ Vocabulary.filterOperators, ∃ kind ∈ TokenKind.all,
      kind.isOperator = true ∧ ∃ names ∈ kind.names?, ∃ name ∈ names,
        op.toList = name.toList ++ ['('] := by
    decide
  obtain ⟨kind, -, hoperator, names, hkind, name, hname, hop⟩ := hnames op h
  have hopening : IsOpening name op.toList :=
    ⟨[], [], .nil, .nil, by simpa using hop⟩
  have hat := tokenAt?_opening hkind hname hopening consumed []
  exact ⟨kind, hoperator, by rwa [List.append_nil] at hat⟩

/-- What is offered for an operator can be read where a call may begin. -/
theorem reads_filterOperator {op : String} (h : op ∈ Vocabulary.filterOperators) :
    Reads .regular op.toList := by
  obtain ⟨kind, -, hat⟩ := exists_tokenAt?_filterOperator h []
  exact (reads_append hat (List.append_nil _).symm).mpr (reads_nil .call)

/-- A closing parenthesis or a comma can be read in a call. -/
theorem reads_call_sign {blanks : List Char} (h : AllBlank blanks) {sign : Char}
    (hsign : sign = ')' ∨ sign = ',') : Reads .call (blanks ++ [sign]) := by
  rcases hsign with rfl | rfl
  · exact (reads_sign .rightParen rfl rfl h []).mpr (reads_nil .regular)
  · exact (reads_sign .comma rfl rfl h []).mpr (reads_nil .call)

theorem tokenAt?_call_word {word rest : List Char} (h : IsWord word)
    (hrest : ∀ c ∈ rest.head?, isRaw c = false) (consumed : List Char) :
    tokenAt? .call consumed (word ++ rest) =
      some ⟨.rawLiteral, word, consumed ++ word, .call, .call⟩ := by
  have hsign (sign : Char) (hraw : isRaw sign = false) : signAt? sign (word ++ rest) = none := by
    obtain ⟨blanks, c, more, hblanks, hc, hword, rfl⟩ := h
    have hne : c ≠ sign := by
      rintro rfl
      exact absurd (hword c List.mem_cons_self) (by simp [hraw])
    rw [List.append_assoc, signAt?_blanks hblanks, List.cons_append, signAt?_cons hc, if_neg hne]
    rfl
  refine tokenAt?_eq_some.mpr ⟨rfl, rfl, rfl, rawAt?_append h hrest, ?_⟩
  intro other hother hlegal
  cases other with
  | rightParen => exact hsign ')' (by decide)
  | comma => exact hsign ',' (by decide)
  | singleQuote => exact hsign '\'' (by decide)
  | doubleQuote => exact hsign '"' (by decide)
  | rawLiteral => exact absurd (List.mem_takeWhile_imp hother) (by simp)
  | _ => cases hlegal

/-- A word in a call is read up to the first character that is not raw. -/
theorem reads_call_word {word rest : List Char} (h : IsWord word)
    (hrest : ∀ c ∈ rest.head?, isRaw c = false) :
    Reads .call (word ++ rest) ↔ Reads .call rest :=
  reads_append (tokenAt?_call_word h hrest []) rfl

/-- A word goes on with spaces. -/
theorem IsWord.append_spaces {word spaces : List Char} (h : IsWord word)
    (hspaces : ∀ c ∈ spaces, c = ' ') : IsWord (word ++ spaces) := by
  obtain ⟨blanks, c, more, hblanks, hc, hword, rfl⟩ := h
  refine ⟨blanks, c, more ++ spaces, hblanks, hc, fun d hd => ?_, by simp⟩
  rcases List.mem_append.mp (by simpa using hd : d ∈ c :: more ++ spaces) with hd | hd
  · exact hword d hd
  · rw [hspaces d hd]
    decide

theorem isContents_spaces {mark : Char} (hmark : isBlank mark = false) {spaces : List Char}
    (h : ∀ c ∈ spaces, c = ' ') : IsContents mark spaces := by
  induction spaces with
  | nil => exact .nil
  | cons c spaces ih =>
    obtain rfl := h c List.mem_cons_self
    refine .plain ?_ (by decide) (ih fun d hd => h d (List.mem_cons_of_mem _ hd))
    rintro rfl
    exact absurd hmark (by decide)

/-- Contents that are not blank do not begin with the mark. -/
theorem IsContents.signAt?_eq_none {mark : Char} (hmark : mark ≠ '\\') {text : List Char}
    (h : IsContents mark text) (hvisible : ∃ c ∈ text, isBlank c = false) (rest : List Char) :
    signAt? mark (text ++ rest) = none := by
  induction h with
  | nil => simp at hvisible
  | @plain c more not_mark _ _ ih =>
    cases hc : isBlank c with
    | false => rw [List.cons_append, signAt?_cons hc, if_neg not_mark]
    | true =>
      have hone : AllBlank [c] := by simpa [AllBlank] using hc
      have hmore := signAt?_blanks hone mark (more ++ rest)
      rw [ih (by simpa [hc] using hvisible)] at hmore
      exact hmore
  | escaped =>
    have hbackslash : isBlank '\\' = false := by decide
    rw [List.cons_append, signAt?_cons hbackslash, if_neg hmark.symm]

/-- Contents that are not blank are read up to the closing mark. -/
theorem tokenAt?_contents {kind : TokenKind} {mark : Char} (hmark : kind.mark? = some mark)
    {mode : Mode} (hnext : kind.next? mode = some mode) {text : List Char}
    (h : IsContents mark text) (hvisible : ∃ c ∈ text, isBlank c = false)
    (consumed rest : List Char) :
    tokenAt? mode consumed (text ++ mark :: rest) =
      some ⟨kind, text, consumed ++ text, mode, mode⟩ := by
  obtain ⟨-, closing, -, hsign, -, honly⟩ := next?_of_mark hmark hnext
  have hbackslash := TokenKind.mark_ne_backslash hmark
  have hcontents : contents mark (text ++ mark :: rest) = text :=
    contents_append hbackslash h (by simp)
  have hne : text ≠ [] := by
    rintro rfl
    simp at hvisible
  refine tokenAt?_eq_some.mpr ⟨rfl, rfl, hnext, ?_, fun other hother hlegal => ?_⟩
  · rw [TokenKind.taken?_of_mark hmark, hcontents, if_neg hne]
  · rcases honly other hlegal with rfl | rfl
    · rw [TokenKind.taken?_of_sign hsign]
      exact h.signAt?_eq_none hbackslash hvisible _
    · exact absurd (List.mem_takeWhile_imp hother) (by simp)

/-- Contents are read up to the closing mark, behind which the call goes on. -/
theorem reads_contents {kind : TokenKind} {mark : Char} (hmark : kind.mark? = some mark)
    {mode after : Mode} (hnext : kind.next? mode = some after) {text : List Char}
    (h : IsContents mark text) (rest : List Char) :
    Reads mode (text ++ mark :: rest) ↔ Reads .call rest := by
  obtain ⟨rfl, closing, -, hsign, hcloses, -⟩ := next?_of_mark hmark hnext
  by_cases hall : AllBlank text
  · exact reads_sign closing hsign hcloses hall rest
  · have hvisible : ∃ c ∈ text, isBlank c = false := by simpa [AllBlank] using hall
    rw [reads_append (tokenAt?_contents hmark hnext h hvisible [] rest) rfl]
    exact reads_sign closing hsign hcloses .nil rest

end Modes
end NextWord.Filter
