import NextWord.Proofs.Filter.RuleTable

/-!
# Reading a filter token by token

A text that can be read is the texts of its tokens, one behind the other, and each token starts in
the mode that the one before it leaves. So a text can be cut off behind any of its tokens and
continued in another way: the tokens before that one stay as they are, and whether the rest can be
read depends on the mode in which they end.
-/

namespace NextWord.Filter

open Text (isBlank)

def Reads (mode : Mode) (text : List Char) : Prop :=
  ∃ tokens, tokensFrom 0 mode [] text = .ok tokens

theorem reads_of_tokensFrom {mode : Mode} {consumed text : List Char} {tokens : List Token}
    (h : tokensFrom 0 mode consumed text = .ok tokens) (other : List Char) :
    ∃ others, tokensFrom 0 mode other text = .ok others := by
  induction tokens generalizing mode consumed text other with
  | nil => exact ⟨[], tokensFrom_eq_nil.mpr (tokensFrom_eq_nil.mp h)⟩
  | cons token tokens ih =>
    obtain ⟨rest, rfl, hfirst, hrest⟩ := tokensFrom_eq_cons.mp h
    obtain ⟨others, hothers⟩ := ih hrest (other ++ token.text)
    let moved : Token := ⟨token.kind, token.text, other ++ token.text, mode, token.after⟩
    have hmoved : tokenAt? mode other (token.text ++ rest) = some moved :=
      tokenAt?_of_consumed hfirst other
    exact ⟨moved :: others, tokensFrom_eq_cons.mpr ⟨rest, rfl, hmoved, hothers⟩⟩

theorem reads_iff {mode : Mode} (consumed : List Char) {text : List Char} :
    Reads mode text ↔ ∃ tokens, tokensFrom 0 mode consumed text = .ok tokens :=
  ⟨fun ⟨_, h⟩ => reads_of_tokensFrom h consumed, fun ⟨_, h⟩ => reads_of_tokensFrom h []⟩

theorem reads_nil (mode : Mode) : Reads mode [] :=
  ⟨[], rfl⟩

/-- A token of a text that can be read may be taken off. -/
theorem reads_append {mode : Mode} {consumed text rest : List Char} {token : Token}
    (h : tokenAt? mode consumed text = some token) (htext : text = token.text ++ rest) :
    Reads mode text ↔ Reads token.after rest := by
  subst htext
  rw [reads_iff consumed, reads_iff token.consumed, tokensFrom_of_tokenAt? h]
  constructor
  · rintro ⟨tokens, htokens⟩
    cases hrest : tokensFrom 0 token.after token.consumed rest with
    | ok others => exact ⟨others, rfl⟩
    | error left => rw [hrest] at htokens; cases htokens
  · rintro ⟨tokens, htokens⟩
    exact ⟨token :: tokens, by rw [htokens]; rfl⟩

/-- A raw token of a text that can be read is a word, unless the text ends with a space: behind
blanks that were taken for a raw token nothing more can be read. -/
theorem isWord_of_tokensFrom {mode : Mode} {consumed text : List Char} {tokens : List Token}
    (h : tokensFrom 0 mode consumed text = .ok tokens) (hlast : text.getLast? ≠ some ' ') :
    ∀ token ∈ tokens, token.kind = .rawLiteral → IsWord token.text := by
  induction tokens generalizing mode consumed text with
  | nil => simp
  | cons first tokens ih =>
    obtain ⟨rest, rfl, hfirst, hrest⟩ := tokensFrom_eq_cons.mp h
    have hlast' : rest.getLast? ≠ some ' ' := by
      intro heq
      exact hlast (by rw [List.getLast?_append, heq]; rfl)
    intro token htoken hkind
    rcases List.mem_cons.mp htoken with rfl | htoken
    · obtain ⟨-, -, -, htaken, -⟩ := tokenAt?_eq_some.mp hfirst
      rw [hkind] at htaken
      obtain ⟨left, htext, ⟨hword, -⟩ | ⟨hblank, hspace, hraw⟩⟩ := rawAt?_eq_some htaken
      · exact hword
      · obtain rfl : rest = left := (List.append_cancel_left_eq _ _ _).mp htext
        have hnone := tokenAt?_eq_none_of_allBlank hfirst hkind hblank hraw token.consumed
        cases tokens with
        | nil =>
          rw [tokensFrom_eq_nil.mp hrest, List.append_nil] at hlast
          exact absurd hspace hlast
        | cons next tokens =>
          obtain ⟨-, -, hnext, -⟩ := tokensFrom_eq_cons.mp hrest
          rw [hnone] at hnext
          cases hnext
    · exact ih hrest hlast' token htoken hkind

theorem spelled_of_tokensFrom {mode : Mode} {consumed text : List Char} {tokens : List Token}
    (h : tokensFrom 0 mode consumed text = .ok tokens) : text = spelled tokens := by
  have hfollows : Follows mode consumed text tokens [] := tokensFrom_eq_ok_iff.mp h
  simpa using hfollows.lossless

/-- A token behind a raw one is not made of blanks alone. -/
theorem exists_not_blank_of_tokenAt? {mode : Mode} {consumed text : List Char} {next : Token}
    (h : tokenAt? mode consumed text = some next)
    (hmode : ∃ before, TokenKind.rawLiteral.next? before = some mode)
    (hword : next.kind = .rawLiteral → IsWord next.text) : ∃ c ∈ next.text, isBlank c = false := by
  obtain ⟨-, -, hlegal, htaken, -⟩ := tokenAt?_eq_some.mp h
  have hvisible (closed : next.kind.isClosed) : ∃ c ∈ next.text, isBlank c = false := by
    obtain ⟨front, c, htext, hc⟩ := exists_concat_of_isClosed closed htaken
    exact ⟨c, by simp [htext], hc⟩
  rcases next.kind.family with hsign | hnames | ⟨mark, hmark⟩ | hraw
  · exact hvisible (.inl hsign)
  · exact hvisible (.inr hnames)
  · -- Contents are read inside of marks only.
    obtain ⟨before, hbefore⟩ := hmode
    exfalso
    cases hkind : next.kind <;> rw [hkind] at hmark hlegal <;> cases hmark <;>
      cases before <;> cases hbefore <;> cases hlegal
  · exact (hword hraw).exists_not_blank

/-- A token is read alike as long as the token behind it stays where it is. -/
theorem tokenAt?_append {mode : Mode} {consumed following rest : List Char} {token next : Token}
    (h : tokenAt? mode consumed (token.text ++ (next.text ++ rest)) = some token)
    (hnext : tokenAt? token.after following (next.text ++ rest) = some next)
    (hword : token.kind = .rawLiteral → IsWord token.text)
    (hword' : next.kind = .rawLiteral → IsWord next.text) (other : List Char) :
    tokenAt? mode consumed (token.text ++ (next.text ++ other)) = some token := by
  rcases token.kind.family with hsign | hnames | ⟨mark, hmark⟩ | hraw
  · exact tokenAt?_append_of_isClosed h (.inl hsign) _
  · exact tokenAt?_append_of_isClosed h (.inr hnames) _
  · exact tokenAt?_append_of_mark h hmark hnext other
  · obtain ⟨-, -, hlegal, -⟩ := tokenAt?_eq_some.mp h
    have hvisible := exists_not_blank_of_tokenAt? hnext ⟨mode, hraw ▸ hlegal⟩ hword'
    exact tokenAt?_append_of_isWord h hraw (hword hraw) hvisible other

/-- The tokens before a given one stay as they are when the text behind that one changes. -/
theorem tokensFrom_continue {mode : Mode} {consumed text : List Char} {before after : List Token}
    {next : Token} (h : tokensFrom 0 mode consumed text = .ok (before ++ next :: after))
    (hwords : ∀ token ∈ before ++ next :: after, token.kind = .rawLiteral → IsWord token.text)
    (other : List Char) :
    tokensFrom 0 mode consumed (spelled before ++ (next.text ++ other)) =
      (tokensFrom 0 next.before (consumed ++ spelled before) (next.text ++ other)).map
        (before ++ ·) := by
  induction before generalizing mode consumed text with
  | nil =>
    obtain ⟨rest, rfl, hnext, -⟩ := tokensFrom_eq_cons.mp h
    obtain ⟨hbefore, -⟩ := tokenAt?_eq_some.mp hnext
    simp only [spelled, List.flatMap_nil, List.nil_append, List.append_nil, hbefore]
    cases tokensFrom 0 mode consumed (next.text ++ other) <;> rfl
  | cons token before ih =>
    obtain ⟨rest, rfl, hfirst, hrest⟩ := tokensFrom_eq_cons.mp h
    obtain ⟨-, hconsumed, -⟩ := tokenAt?_eq_some.mp hfirst
    have hmore := ih hrest fun token htoken => hwords token (List.mem_cons_of_mem _ htoken)
    have hsame : tokenAt? mode consumed (token.text ++ (spelled before ++ (next.text ++ other))) =
        some token := by
      have hword := hwords token List.mem_cons_self
      cases before with
      | nil =>
        obtain ⟨left, rfl, hsecond, -⟩ := tokensFrom_eq_cons.mp hrest
        exact tokenAt?_append hfirst hsecond hword (hwords next (by simp)) other
      | cons second before =>
        obtain ⟨left, rfl, hsecond, -⟩ := tokensFrom_eq_cons.mp hrest
        have := tokenAt?_append hfirst hsecond hword (hwords second (by simp))
          (spelled before ++ (next.text ++ other))
        simpa [spelled] using this
    have hspelled : consumed ++ spelled (token :: before) = token.consumed ++ spelled before := by
      simp [spelled, hconsumed]
    have htext : spelled (token :: before) ++ (next.text ++ other) =
        token.text ++ (spelled before ++ (next.text ++ other)) := by
      simp [spelled]
    rw [htext, tokensFrom_of_tokenAt? hsame, hmore, hspelled]
    cases tokensFrom 0 next.before (token.consumed ++ spelled before) (next.text ++ other) <;> rfl

/-- Each token was read where it stands. -/
theorem exists_tokenAt?_of_mem {mode : Mode} {consumed text : List Char} {tokens : List Token}
    (h : tokensFrom 0 mode consumed text = .ok tokens) :
    ∀ token ∈ tokens, ∃ before rest, tokenAt? token.before before (token.text ++ rest) =
      some token := by
  intro token htoken
  obtain ⟨before, after, hsplit⟩ := List.append_of_mem htoken
  exact ⟨_, _, (tokensFrom_eq_ok_iff.mp h).tokenAt?_eq hsplit⟩

/-- A token starts in the mode that the one before it leaves. -/
theorem after_eq_before {mode : Mode} {consumed text : List Char} {before after : List Token}
    {first second : Token}
    (h : tokensFrom 0 mode consumed text = .ok (before ++ first :: second :: after)) :
    first.after = second.before := by
  have hfollows := tokensFrom_eq_ok_iff.mp h
  have hrule := hfollows.byRule (before ++ [first]) second after (by simp)
  rw [hrule.starts, modeBehind_concat]

/-- What was consumed up to a token is the text up to its end. -/
theorem consumed_eq {mode : Mode} {consumed text : List Char} {before after : List Token}
    {next : Token} (h : tokensFrom 0 mode consumed text = .ok (before ++ next :: after)) :
    next.consumed = consumed ++ (spelled before ++ next.text) := by
  have hfollows := tokensFrom_eq_ok_iff.mp h
  rw [hfollows.recorded before next after rfl]
  simp [spelled]

end NextWord.Filter
