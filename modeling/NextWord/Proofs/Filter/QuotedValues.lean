import NextWord.Proofs.Filter.WithinGrammar

/-!
# Quoted values

A value may be any text between marks, if each mark in it is protected by a backslash: what looks
like a sign, an operator or the other mark is read as part of the contents. Only a value that has a
backslash of its own, or nothing but blanks, is read in another way.
-/

namespace NextWord.Filter

open Text (isBlank)

section Rows

/-- Tokens of given kinds, texts and modes behind them, each read behind the one before it. -/
def tokensOf : Mode → List Char → List (TokenKind × List Char × Mode) → List Token
  | _, _, [] => []
  | mode, consumed, (kind, text, after) :: rows =>
    ⟨kind, text, consumed ++ text, mode, after⟩ :: tokensOf after (consumed ++ text) rows

variable {mode after : Mode} {consumed text rest : List Char} {kind : TokenKind}
variable {rows : List (TokenKind × List Char × Mode)}

theorem tokensFrom_nil_eq (mode : Mode) (consumed : List Char) :
    tokensFrom 0 mode consumed [] = .ok (tokensOf mode consumed []) :=
  tokensFrom_eq_nil.mpr rfl

theorem tokensFrom_append_eq
    (hfirst : tokenAt? mode consumed (text ++ rest) =
      some ⟨kind, text, consumed ++ text, mode, after⟩)
    (hrest : tokensFrom 0 after (consumed ++ text) rest =
      .ok (tokensOf after (consumed ++ text) rows)) :
    tokensFrom 0 mode consumed (text ++ rest) =
      .ok (tokensOf mode consumed ((kind, text, after) :: rows)) :=
  tokensFrom_eq_cons.mpr ⟨rest, rfl, hfirst, hrest⟩

/-- A sign alone is read wherever it is legal. -/
theorem tokensFrom_sign_eq {sign : Char} (hsign : kind.sign? = some sign)
    (hnext : kind.next? mode = some after)
    (hrest : tokensFrom 0 after (consumed ++ [sign]) rest =
      .ok (tokensOf after (consumed ++ [sign]) rows)) :
    tokensFrom 0 mode consumed (sign :: rest) =
      .ok (tokensOf mode consumed ((kind, [sign], after) :: rows)) := by
  have hfirst : tokenAt? mode consumed ([sign] ++ rest) =
      some ⟨kind, [sign], consumed ++ [sign], mode, after⟩ :=
    tokenAt?_sign hsign hnext .nil consumed rest
  exact tokensFrom_append_eq hfirst hrest

end Rows

section Values

variable {mark : Char} {value : List Char}

/-- A value with a backslash before each mark in it. -/
def protect (mark : Char) (value : List Char) : List Char :=
  value.flatMap fun c => if c = mark then ['\\', c] else [c]

theorem isContents_protect (plain : '\\' ∉ value) : IsContents mark (protect mark value) := by
  induction value with
  | nil => exact .nil
  | cons c value ih =>
    obtain ⟨hc, hvalue⟩ : '\\' ≠ c ∧ '\\' ∉ value := by simpa using plain
    have hrest : IsContents mark (protect mark value) := ih hvalue
    rw [protect, List.flatMap_cons]
    by_cases hmark : c = mark
    · rw [if_pos hmark, hmark]
      exact .escaped hrest
    · rw [if_neg hmark]
      exact .plain hmark (Ne.symm hc) hrest

/-- Nothing of a value is lost. -/
theorem mem_protect {c : Char} (h : c ∈ value) : c ∈ protect mark value := by
  refine List.mem_flatMap.mpr ⟨c, h, ?_⟩
  split <;> simp

theorem exists_visible_protect (h : ∃ c ∈ value, isBlank c = false) :
    ∃ c ∈ protect mark value, isBlank c = false := by
  obtain ⟨c, hc, hvisible⟩ := h
  exact ⟨c, mem_protect hc, hvisible⟩

end Values

section Calls

theorem exists_names_of_mem_operators {name : String} (h : name ∈ operators) :
    ∃ names, (operatorKind (name ∈ varargOperators)).names? = some names ∧ name ∈ names := by
  by_cases hmany : name ∈ varargOperators
  · exact ⟨varargOperators, by simp [operatorKind, hmany, TokenKind.names?], hmany⟩
  · have hbinary : name ∈ binaryOperators := (List.mem_append.mp h).resolve_right hmany
    exact ⟨binaryOperators, by simp [operatorKind, hmany, TokenKind.names?], hbinary⟩

/-- A value and its marks are read as the mark, the value with its protected marks, and the mark
again. -/
theorem tokensFrom_quoted_eq (q : Quotation) {value rest consumed : List Char}
    {rows : List (TokenKind × List Char × Mode)} (plain : '\\' ∉ value)
    (visible : ∃ c ∈ value, isBlank c = false)
    (hrest : ∀ consumed, tokensFrom 0 .call consumed rest = .ok (tokensOf .call consumed rows)) :
    tokensFrom 0 .call consumed (q.sign :: (protect q.sign value ++ q.sign :: rest)) =
      .ok (tokensOf .call consumed ((q.mark, [q.sign], q.mode) ::
        (q.contents, protect q.sign value, q.mode) :: (q.mark, [q.sign], .call) :: rows)) := by
  have hcontents := tokenAt?_contents q.mark?_contents q.next?_contents
    (isContents_protect plain) (exists_visible_protect visible) (consumed ++ [q.sign]) rest
  apply tokensFrom_sign_eq q.sign?_mark q.next?_mark_call
  apply tokensFrom_append_eq hcontents
  apply tokensFrom_sign_eq q.sign?_mark q.next?_mark_mode
  exact hrest _

def quotedCall (name field : String) (q : Quotation) (value : List Char) : List Char :=
  (name.toList ++ ['(']) ++ (field.toList ++
    ',' :: q.sign :: (protect q.sign value ++ [q.sign, ')']))

theorem trimSpaces_quotedCall {name : String} (hname : name ∈ operators) (field : String)
    (q : Quotation) (value : List Char) :
    trimSpaces (quotedCall name field q value) = quotedCall name field q value := by
  obtain ⟨c, word, hword⟩ := List.exists_cons_of_ne_nil (ne_nil_of_mem_operators name hname)
  have hletter : c.isAlphanum = true := isAlphanum_of_mem_operators name hname c (by simp [hword])
  apply trimSpaces_eq_self
  · intro hspace
    obtain rfl : c = ' ' := by simpa [quotedCall, hword] using hspace
    exact absurd hletter (by decide)
  · have hparen : quotedCall name field q value = (name.toList ++ '(' :: (field.toList ++
        ',' :: q.sign :: (protect q.sign value ++ [q.sign]))) ++ [')'] := by
      simp [quotedCall]
    rw [hparen, List.getLast?_concat]
    decide

/-- A call with a quoted value is read as such, whatever the value has in it besides backslashes, if
it is not blank. -/
theorem lex_quotedCall {name field : String} (hname : name ∈ operators) (hfield : FieldName field)
    (q : Quotation) {value : List Char} (plain : '\\' ∉ value)
    (visible : ∃ c ∈ value, isBlank c = false) :
    lex (quotedCall name field q value) =
      .ok (tokensOf .regular [] [
        (operatorKind (name ∈ varargOperators), name.toList ++ ['('], .call),
        (.rawLiteral, field.toList, .call), (.comma, [','], .call), (q.mark, [q.sign], q.mode),
        (q.contents, protect q.sign value, q.mode), (q.mark, [q.sign], .call),
        (.rightParen, [')'], .regular)]) := by
  obtain ⟨names, hnames, hmem⟩ := exists_names_of_mem_operators hname
  have hopening : IsOpening name (name.toList ++ ['(']) := ⟨[], [], .nil, .nil, rfl⟩
  have hcomma (rest : List Char) : ∀ c ∈ (',' :: rest).head?, isRaw c = false := by
    intro c hc
    obtain rfl : ',' = c := by simpa using hc
    decide
  rw [lex, trimSpaces_quotedCall hname, quotedCall]
  apply tokensFrom_append_eq (tokenAt?_opening hnames hmem hopening [] _)
  apply tokensFrom_append_eq (tokenAt?_call_word hfield.isWord (hcomma _) _)
  apply tokensFrom_sign_eq rfl rfl
  apply tokensFrom_quoted_eq q plain visible
  intro consumed
  apply tokensFrom_sign_eq rfl rfl
  exact tokensFrom_nil_eq .regular _

theorem lex_quotedCall_name :
    let value := "\t,'in(a,\"b\"):eq) ".toList
    "like" ∈ operators ∧ FieldName "customer.name" ∧ '\\' ∉ value ∧
      (∃ c ∈ value, isBlank c = false) ∧
      quotedCall "like" "customer.name" .single value =
        "like(customer.name,'\t,\\'in(a,\"b\"):eq) ')".toList ∧
      lex (quotedCall "like" "customer.name" .single value) =
        .ok (tokensOf .regular [] [(.binaryOp, "like(".toList, .call),
          (.rawLiteral, "customer.name".toList, .call), (.comma, [','], .call),
          (.singleQuote, ['\''], .singleQuote),
          (.singleQuotedContents, "\t,\\'in(a,\"b\"):eq) ".toList, .singleQuote),
          (.singleQuote, ['\''], .call), (.rightParen, [')'], .regular)]) := by
  intro value
  have hname : "like" ∈ operators := by decide
  have hfield : FieldName "customer.name" := by decide
  have plain : '\\' ∉ value := by decide
  have visible : ∃ c ∈ value, isBlank c = false := ⟨',', by decide, by decide⟩
  have htext : quotedCall "like" "customer.name" .single value =
      "like(customer.name,'\t,\\'in(a,\"b\"):eq) ')".toList := by decide +kernel
  exact ⟨hname, hfield, plain, visible, htext, lex_quotedCall hname hfield .single plain visible⟩

end Calls

end NextWord.Filter
