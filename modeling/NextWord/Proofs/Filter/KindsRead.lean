import NextWord.Proofs.Filter.Continued
import NextWord.Proofs.Filter.Sentences

/-!
# The kinds of tokens that a text is read as

Which tokens a text is read as, their kinds only, depends on the mode in which it is read and not on
what was consumed before. A sign, a word in a call and the contents of marks with their closing mark
are read as what they look like; only blank contents are taken for the blanks before the mark. So
the kinds of a text that continues a filter are those of the tokens that stay and those of the
addition.
-/

namespace NextWord.Filter

open Text (isBlank)

/-- Whether a text is read from a mode on as tokens of certain kinds, whatever was consumed. -/
def ReadsAs (mode : Mode) (text : List Char) (kinds : List TokenKind) : Prop :=
  ∀ consumed, ∃ tokens, tokensFrom 0 mode consumed text = .ok tokens ∧
    tokens.map Token.kind = kinds

def LexesAs (text : List Char) (kinds : List TokenKind) : Prop :=
  ∃ tokens, lex text = .ok tokens ∧ tokens.map Token.kind = kinds

theorem readsAs_nil (mode : Mode) : ReadsAs mode [] [] :=
  fun _ => ⟨[], rfl, rfl⟩

theorem ReadsAs.cons {mode after : Mode} {consumed whole text rest : List Char} {kind : TokenKind}
    {kinds : List TokenKind}
    (h : tokenAt? mode consumed (text ++ rest) = some ⟨kind, text, whole, mode, after⟩)
    (hrest : ReadsAs after rest kinds) : ReadsAs mode (text ++ rest) (kind :: kinds) := by
  intro other
  obtain ⟨tokens, htokens, rfl⟩ := hrest (other ++ text)
  have hat := tokenAt?_of_consumed h other
  exact ⟨⟨kind, text, other ++ text, mode, after⟩ :: tokens,
    tokensFrom_eq_cons.mpr ⟨rest, rfl, hat, htokens⟩, rfl⟩

/-- A text that continues a filter behind some of its tokens has their kinds and those of the
continuation. -/
theorem lexesAs_of_readsAs {text rest consumed : List Char} {mode : Mode} {before : List Token}
    {kinds : List TokenKind}
    (h : lex text = (tokensFrom 0 mode consumed rest).map (before ++ ·))
    (hrest : ReadsAs mode rest kinds) : LexesAs text (before.map Token.kind ++ kinds) := by
  obtain ⟨tokens, htokens, rfl⟩ := hrest consumed
  exact ⟨before ++ tokens, by rw [h, htokens]; rfl, List.map_append⟩

section Marks

namespace Quotation

def sign : Quotation → Char
  | .single => '\''
  | .double => '"'

theorem sign?_mark (q : Quotation) : q.mark.sign? = some q.sign := by
  cases q <;> rfl

theorem mark?_contents (q : Quotation) : q.contents.mark? = some q.sign := by
  cases q <;> rfl

theorem closingMark_mode (q : Quotation) : closingMark q.mode = some q.sign := by
  cases q <;> rfl

theorem isContents_contents (q : Quotation) : q.contents.isContents = true := by
  cases q <;> rfl

theorem isContents_mark (q : Quotation) : q.mark.isContents = false := by
  cases q <;> rfl

theorem next?_contents (q : Quotation) : q.contents.next? q.mode = some q.mode := by
  cases q <;> rfl

theorem next?_mark_mode (q : Quotation) : q.mark.next? q.mode = some .call := by
  cases q <;> rfl

theorem next?_mark_call (q : Quotation) : q.mark.next? .call = some q.mode := by
  cases q <;> rfl

end Quotation

end Marks

section Pieces

variable {kinds : List TokenKind}

/-- A sign is read as one, and the mode behind it decides on what follows. -/
theorem readsAs_sign {kind : TokenKind} {sign : Char} {mode after : Mode}
    (hsign : kind.sign? = some sign) (hnext : kind.next? mode = some after)
    {blanks rest : List Char} (hblanks : AllBlank blanks) (hrest : ReadsAs after rest kinds) :
    ReadsAs mode (blanks ++ sign :: rest) (kind :: kinds) := by
  have hat := tokenAt?_sign hsign hnext hblanks [] rest
  have htext : blanks ++ sign :: rest = blanks ++ [sign] ++ rest := by simp
  rw [htext] at hat ⊢
  exact .cons hat hrest

theorem readsAs_word {word rest : List Char} (h : IsWord word)
    (hhead : ∀ c ∈ rest.head?, isRaw c = false) (hrest : ReadsAs .call rest kinds) :
    ReadsAs .call (word ++ rest) (.rawLiteral :: kinds) :=
  .cons (tokenAt?_call_word h hhead []) hrest

/-- Contents and their mark are read as such, or as the mark alone where the contents are blank. -/
theorem readsAs_contents (q : Quotation) {text rest : List Char} (h : IsContents q.sign text)
    (hrest : ReadsAs .call rest kinds) :
    ReadsAs q.mode (text ++ q.sign :: rest) (q.contents :: q.mark :: kinds) ∨
      ReadsAs q.mode (text ++ q.sign :: rest) (q.mark :: kinds) := by
  by_cases hall : AllBlank text
  · exact .inr (readsAs_sign q.sign?_mark q.next?_mark_mode hall hrest)
  · have hvisible : ∃ c ∈ text, isBlank c = false := by simpa [AllBlank] using hall
    have hat := tokenAt?_contents q.mark?_contents q.next?_contents h hvisible [] rest
    exact .inl (.cons hat (readsAs_sign q.sign?_mark q.next?_mark_mode .nil hrest))

theorem exists_readsAs_filterOperator {op : String} (h : op ∈ Vocabulary.filterOperators) :
    ∃ kind : TokenKind, kind.isOperator = true ∧ ReadsAs .regular op.toList [kind] := by
  obtain ⟨kind, hoperator, hat⟩ := exists_tokenAt?_filterOperator h []
  have hnil : op.toList ++ [] = op.toList := List.append_nil _
  rw [← hnil] at hat
  have hread : ReadsAs .regular (op.toList ++ []) [kind] :=
    .cons (by simpa using hat) (readsAs_nil .call)
  exact ⟨kind, hoperator, hnil ▸ hread⟩

/-- A sign or an operator of a filter is read as before, whatever comes behind it. -/
theorem readsAs_append_of_isClosed {typed : List Char} {tokens : List Token}
    (hlex : lex typed = .ok tokens) {token : Token} (htoken : token ∈ tokens)
    (closed : token.kind.isClosed) {rest : List Char} (hrest : ReadsAs token.after rest kinds) :
    ReadsAs token.before (token.text ++ rest) (token.kind :: kinds) := by
  obtain ⟨_, _, hat⟩ := exists_tokenAt?_of_mem hlex token htoken
  exact .cons (tokenAt?_of_consumed (tokenAt?_append_of_isClosed hat closed rest) []) hrest

end Pieces

end NextWord.Filter
