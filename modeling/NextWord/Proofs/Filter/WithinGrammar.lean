import NextWord.Proofs.Filter.Candidates
import NextWord.Proofs.Filter.OfferedAt
import NextWord.Proofs.Outcome

/-!
# Completion stays within the grammar

A filter that begins a sentence, or has a word where an operator is due, is completed to filters
that do so as well. Its tokens lead to a place in a sentence; the place decides what is offered, and
what is offered is read as tokens that lead on from there. A value is ended on the text as it was
typed.
-/

namespace NextWord.Filter

open Text (isBlank isBlank_of_isAlphanum)

/-- Whether a row begins a sentence, a word being allowed where an operator is due. -/
def IsPartial (kinds : List TokenKind) : Prop :=
  Begins kinds ∨ ∃ front operator, operator.isOperator = true ∧ Begins (front ++ [operator]) ∧
    kinds = front ++ [.rawLiteral]

/-- Whether a text is read as tokens that begin a sentence, up to a word for an operator. -/
def PartialFilter (text : List Char) : Prop :=
  ∃ kinds, LexesAs text kinds ∧ IsPartial kinds

theorem partialFilter_of_leads {text : List Char} {kinds : List TokenKind} {place : Place}
    (h : LexesAs text kinds) (hplace : Leads .operator kinds place) : PartialFilter text :=
  ⟨kinds, h, .inl (begins_iff.mpr ⟨place, hplace⟩)⟩

section Names

/-- The names of fields: words of raw characters without spaces. -/
def FieldName (field : String) : Prop :=
  field ≠ "" ∧ ∀ c ∈ field.toList, isRaw c = true ∧ c ≠ ' '

instance (field : String) : Decidable (FieldName field) :=
  decidable_of_iff (field ≠ "" ∧ field.toList.all (fun c => isRaw c && c != ' ') = true)
    (by simp [FieldName])

theorem isBlank_of_isRaw {c : Char} (hraw : isRaw c = true) (hspace : c ≠ ' ') :
    isBlank c = false := by
  rw [isRaw, Bool.or_eq_true] at hraw
  rcases hraw with halnum | hlisted
  · exact isBlank_of_isAlphanum halnum
  · have hother : (['@', '$', '_', '*', '.', '\x7b', '\x7d', '|', ' ', '+', ':', '/', '-'].all
        fun d => d == ' ' || !isBlank d) = true := by
      decide
    have hc := List.all_eq_true.mp hother c (List.contains_iff_mem.mp hlisted)
    simpa [hspace] using hc

theorem FieldName.isWord {field : String} (h : FieldName field) : IsWord field.toList := by
  obtain ⟨hne, hraw⟩ := h
  have hletters : field.toList ≠ [] := fun hnil => hne (String.toList_eq_nil_iff.mp hnil)
  obtain ⟨c, word, hword⟩ := List.exists_cons_of_ne_nil hletters
  obtain ⟨hc, hspace⟩ := hraw c (by simp [hword])
  refine ⟨[], c, word, .nil, isBlank_of_isRaw hc hspace, fun d hd => ?_, by simp [hword]⟩
  exact (hraw d (by rw [hword]; exact hd)).1

theorem fieldName_of_mem_offeredFields {fields : List String}
    (hfields : ∀ field ∈ fields, FieldName field) :
    ∀ field ∈ offeredFields fields, FieldName field := by
  have himplicit : ∀ field ∈ Vocabulary.filterImplicitFields, FieldName field := by
    decide
  intro field hfield
  rcases List.mem_append.mp (List.mem_eraseDups.mp hfield) with hown | hother
  · exact hfields field hown
  · exact himplicit field hother

end Names

section Continuations

variable {typed : List Char} {before after : List Token} {next : Token} {place : Place}

/-- Behind a sign or an operator a filter goes on with the tokens of what is put there. -/
theorem lexesAs_consumed_append (hlex : lex typed = .ok (before ++ next :: after))
    (closed : next.kind.isClosed) {other : List Char} (hother : other.getLast? ≠ some ' ')
    {kinds : List TokenKind} (hread : ReadsAs next.after other kinds) :
    LexesAs (next.consumed ++ other) (before.map Token.kind ++ next.kind :: kinds) := by
  have hcontinue := lex_consumed_append_of_isClosed hlex closed other hother
  have hsplit : (before ++ next :: ·) = ((before ++ [next]) ++ ·) := by
    funext tokens
    simp
  rw [hsplit] at hcontinue
  simpa using lexesAs_of_readsAs hcontinue hread

theorem isClosed_of_step_field {many : Bool} {kind : TokenKind}
    (h : Step place kind (.field many)) : kind.isClosed := by
  cases h <;> exact .inr ⟨_, rfl⟩

theorem isClosed_of_step_operator {kind : TokenKind} (h : Step place kind .operator) :
    kind.isClosed := by
  cases h
  exact .inl ⟨_, rfl⟩

theorem isClosed_of_step_closed {kind : TokenKind} (h : Step place kind .closed) :
    kind.isClosed := by
  cases h
  exact .inl ⟨_, rfl⟩

/-- A field and a comma may follow an operator. -/
theorem partialFilter_field (hlex : lex typed = .ok (before ++ next :: after))
    (hfront : Leads .operator (before.map Token.kind) place) {many : Bool}
    (hstep : Step place next.kind (.field many)) {field : String} (hfield : FieldName field) :
    PartialFilter (next.consumed ++ (field.toList ++ [','])) := by
  have hafter : next.after = .call := after_eq_mode_of_lex hlex hfront hstep
  have hcomma : ReadsAs .call ([] ++ [',']) [.comma] :=
    readsAs_sign rfl rfl .nil (readsAs_nil .call)
  have hread : ReadsAs next.after (field.toList ++ [',']) [.rawLiteral, .comma] := by
    rw [hafter]
    exact readsAs_word hfield.isWord (by simp; decide) hcomma
  have hlexes := lexesAs_consumed_append hlex (isClosed_of_step_field hstep) (by simp) hread
  have hseparated := Leads.cons hstep (.cons .field (.of_step .separator))
  exact partialFilter_of_leads hlexes (hfront.append hseparated)

theorem exists_step_of_isOperator {kind : TokenKind} (h : kind.isOperator = true) :
    ∃ next, Step .operator kind next := by
  cases kind with
  | binaryOp => exact ⟨_, .binary⟩
  | varargOp => exact ⟨_, .vararg⟩
  | _ => cases h

/-- An operator may follow a colon. -/
theorem partialFilter_operator (hlex : lex typed = .ok (before ++ next :: after))
    (hfront : Leads .operator (before.map Token.kind) place)
    (hstep : Step place next.kind .operator) {op : String} (hop : op ∈ Vocabulary.filterOperators) :
    PartialFilter (next.consumed ++ op.toList) := by
  have hafter : next.after = .regular := after_eq_mode_of_lex hlex hfront hstep
  obtain ⟨kind, hoperator, hread⟩ := exists_readsAs_filterOperator hop
  obtain ⟨field, hfield⟩ := exists_step_of_isOperator hoperator
  have hlexes := lexesAs_consumed_append hlex (isClosed_of_step_operator hstep)
    (not_space_of_filterOperator op hop).2 (hafter ▸ hread)
  exact partialFilter_of_leads hlexes (hfront.append (.cons hstep (.of_step hfield)))

/-- An operator alone begins a filter. -/
theorem partialFilter_start {op : String} (hop : op ∈ Vocabulary.filterOperators) :
    PartialFilter op.toList := by
  obtain ⟨kind, hoperator, hread⟩ := exists_readsAs_filterOperator hop
  obtain ⟨field, hfield⟩ := exists_step_of_isOperator hoperator
  obtain ⟨hhead, hlast⟩ := not_space_of_filterOperator op hop
  obtain ⟨tokens, htokens, hkinds⟩ := hread []
  have hlexes : LexesAs op.toList [kind] :=
    ⟨tokens, by rw [lex, trimSpaces_eq_self hhead hlast, htokens], hkinds⟩
  exact partialFilter_of_leads hlexes (.of_step hfield)

/-- A colon may follow a call. -/
theorem partialFilter_chain (hlex : lex typed = .ok (before ++ next :: after))
    (hfront : Leads .operator (before.map Token.kind) place)
    (hstep : Step place next.kind .closed) : PartialFilter (next.consumed ++ [':']) := by
  have hafter : next.after = .regular := after_eq_mode_of_lex hlex hfront hstep
  have hread : ReadsAs next.after ([] ++ [':']) [.chain] := by
    rw [hafter]
    exact readsAs_sign rfl rfl .nil (readsAs_nil .regular)
  have hlexes := lexesAs_consumed_append hlex (isClosed_of_step_closed hstep) (by simp) hread
  exact partialFilter_of_leads hlexes (hfront.append (.cons hstep (.of_step .chain)))

def EndsValue (many : Bool) (sign : Char) : Prop :=
  sign = ')' ∨ many = true ∧ sign = ','

/-- Behind a value the sign ends the call or announces another value. -/
theorem exists_step_of_endsValue {many : Bool} {sign : Char} (h : EndsValue many sign) :
    ∃ kind next, Step (.ending many) kind next ∧
      ∀ blanks, AllBlank blanks → ReadsAs .call (blanks ++ [sign]) [kind] := by
  rcases h with rfl | ⟨rfl, rfl⟩
  · exact ⟨.rightParen, .closed, .paren, fun blanks hblanks =>
      readsAs_sign rfl rfl hblanks (readsAs_nil .regular)⟩
  · exact ⟨.comma, .value true, .comma, fun blanks hblanks =>
      readsAs_sign rfl rfl hblanks (readsAs_nil .call)⟩

theorem raw_or_closed_of_step_ending {many : Bool} {kind : TokenKind}
    (h : Step place kind (.ending many)) : kind = .rawLiteral ∨ kind.isClosed := by
  cases h with
  | raw => exact .inl rfl
  | unquoteEmpty hkind => exact .inr (.inl ⟨_, hkind ▸ Quotation.sign?_mark _⟩)
  | unquote hkind => exact .inr (.inl ⟨_, hkind ▸ Quotation.sign?_mark _⟩)

theorem EndsValue.ne_space {many : Bool} {sign : Char} (h : EndsValue many sign) : sign ≠ ' ' := by
  rcases h with rfl | ⟨-, rfl⟩ <;> decide

theorem EndsValue.isRaw {many : Bool} {sign : Char} (h : EndsValue many sign) :
    isRaw sign = false := by
  rcases h with rfl | ⟨-, rfl⟩ <;> decide

/-- A value may be ended as it was typed. -/
theorem partialFilter_value (hlex : lex typed = .ok (before ++ [next]))
    (hfront : Leads .operator (before.map Token.kind) place) {many : Bool}
    (hstep : Step place next.kind (.ending many)) {sign : Char} (hsign : EndsValue many sign) :
    PartialFilter (typed ++ [sign]) := by
  obtain ⟨spaces, hspaces, hcontinue⟩ := lex_typed_append hlex
  obtain ⟨kind, last, hending, hread⟩ := exists_step_of_endsValue hsign
  have hafter : next.after = .call := after_eq_mode_of_lex hlex hfront hstep
  have hvalue : ReadsAs next.before (next.text ++ (spaces ++ [sign])) [next.kind, kind] := by
    rcases raw_or_closed_of_step_ending hstep with hraw | closed
    · have hlegal := next?_of_lex hlex next (by simp)
      have hbefore : next.before = .call := (before_of_raw (hraw ▸ hlegal)).trans hafter
      have hword := (isWord_of_lex hlex next (by simp) hraw).append_spaces hspaces
      rw [hbefore, hraw, ← List.append_assoc]
      exact readsAs_word hword (by simpa using hsign.isRaw) (hread [] .nil)
    · refine readsAs_append_of_isClosed hlex (by simp) closed ?_
      rw [hafter]
      exact hread spaces (allBlank_of_spaces hspaces)
  have hlexes := lexesAs_of_readsAs (hcontinue _ (by simp) (by simpa using hsign.ne_space)) hvalue
  exact partialFilter_of_leads hlexes (hfront.append (.cons hstep (.of_step hending)))

/-- Contents may be ended by their mark and the value behind them. -/
theorem partialFilter_contents (hlex : lex typed = .ok (before ++ [next]))
    (hfront : Leads .operator (before.map Token.kind) place) {many : Bool} {q : Quotation}
    (hstep : Step place next.kind (.filled many q)) {sign : Char} (hsign : EndsValue many sign) :
    PartialFilter (typed ++ [q.sign, sign]) := by
  obtain ⟨spaces, hspaces, hcontinue⟩ := lex_typed_append hlex
  obtain ⟨kind, last, hending, hread⟩ := exists_step_of_endsValue hsign
  have hbefore := before_eq_mode_of_lex hlex hfront
  generalize hkind : next.kind = contents at hstep
  cases hstep with
  | contents hcontents =>
    subst hcontents
    have htext : IsContents q.sign (next.text ++ spaces) :=
      (isContents_of_lex hlex (by simp) (hkind ▸ q.mark?_contents)).append
        (isContents_spaces (TokenKind.isBlank_of_mark q.mark?_contents) hspaces)
    have hlast : [q.sign, sign].getLast? ≠ some ' ' := by simpa using hsign.ne_space
    have hlexes {kinds : List TokenKind}
        (hread : ReadsAs q.mode (next.text ++ spaces ++ [q.sign, sign]) kinds) :
        LexesAs (typed ++ [q.sign, sign]) (before.map Token.kind ++ kinds) := by
      rw [List.append_assoc] at hread
      exact lexesAs_of_readsAs (hbefore ▸ hcontinue _ (by simp) hlast) hread
    rcases readsAs_contents q htext (hread [] .nil) with hfilled | hempty
    · have hvalue : Leads (.opened many q) [q.contents, q.mark, kind] last :=
        .cons (.contents rfl) (.cons (.unquote rfl) (.of_step hending))
      exact partialFilter_of_leads (hlexes hfilled) (hfront.append hvalue)
    · have hvalue : Leads (.opened many q) [q.mark, kind] last :=
        .cons (.unquoteEmpty rfl) (.of_step hending)
      exact partialFilter_of_leads (hlexes hempty) (hfront.append hvalue)

end Continuations

section Offered

variable {typed candidate : String} {fields : List String} {before : List Token} {last : Token}
variable {place next : Place}

theorem exists_of_mem_endings {many : Bool} {text : String} (h : candidate ∈ endings many text) :
    ∃ sign, EndsValue many sign ∧ candidate = text ++ String.singleton sign := by
  cases many with
  | false => exact ⟨')', .inl rfl, List.mem_singleton.mp h⟩
  | true =>
    rcases List.mem_pair.mp h with rfl | rfl
    · exact ⟨')', .inl rfl, rfl⟩
    · exact ⟨',', .inr ⟨rfl, rfl⟩, rfl⟩

/-- What is offered at a place leads on from there. -/
theorem partialFilter_of_mem_offered (hlex : lex typed.toList = .ok (before ++ [last]))
    (hfront : Leads .operator (before.map Token.kind) place) (hstep : Step place last.kind next)
    (hfields : ∀ field ∈ offeredFields fields, FieldName field)
    (h : candidate ∈ next.offered typed fields before.getLast? last) :
    PartialFilter candidate.toList := by
  cases next with
  | operator =>
    obtain ⟨op, hop, rfl⟩ := exists_of_mem_operatorsAfter h
    simpa using partialFilter_operator hlex hfront hstep hop
  | field many =>
    obtain ⟨field, hfield, rfl⟩ := exists_of_mem_fieldsAfter h
    simpa using partialFilter_field hlex hfront hstep (hfields field hfield)
  | separator many =>
    obtain rfl := eq_field_of_step_separator hstep
    obtain ⟨front, operator, earlier, rfl, hearlier, hoperator⟩ := exists_previous hfront (by simp)
    rw [List.getLast?_concat] at h
    obtain ⟨field, hfield, rfl⟩ := exists_of_mem_fieldsAfter h
    rw [List.append_assoc] at hlex
    simpa using partialFilter_field hlex hearlier hoperator (hfields field hfield)
  | value many => cases h
  | opened many q => cases h
  | filled many q =>
    obtain ⟨sign, hsign, rfl⟩ := exists_of_mem_endings h
    simpa using partialFilter_contents hlex hfront hstep hsign
  | ending many =>
    obtain ⟨sign, hsign, rfl⟩ := exists_of_mem_endings h
    simpa using partialFilter_value hlex hfront hstep hsign
  | closed =>
    obtain rfl := List.mem_singleton.mp h
    simpa using partialFilter_chain hlex hfront hstep

/-- Where a word stands for an operator, operators are offered behind what comes before it. -/
theorem afterToken_of_word (hlex : lex typed.toList = .ok (before ++ [last]))
    (hfront : Leads .operator (before.map Token.kind) .operator) (hkind : last.kind = .rawLiteral)
    (governs : Option TokenKind × Nat) :
    afterToken typed fields last before.getLast? governs =
      operatorsAfter ((before.getLast?.map Token.consumed).getD []) := by
  have hmode : last.before = .regular := before_eq_mode_of_lex hlex hfront
  simp only [afterToken, hmode, closingMark, hkind, if_true]

theorem partialFilter_of_mem_afterWord (hlex : lex typed.toList = .ok (before ++ [last]))
    (hfront : Leads .operator (before.map Token.kind) .operator)
    (h : candidate ∈ operatorsAfter ((before.getLast?.map Token.consumed).getD [])) :
    PartialFilter candidate.toList := by
  obtain ⟨op, hop, rfl⟩ := exists_of_mem_operatorsAfter h
  rcases List.eq_nil_or_concat' before with rfl | ⟨front, colon, rfl⟩
  · simpa using partialFilter_start hop
  · rw [List.map_append] at hfront
    obtain ⟨earlier, hearlier, hstep⟩ := hfront.exists_of_concat
    rw [List.append_assoc] at hlex
    simpa using partialFilter_operator hlex hearlier hstep hop

/-- A filter that begins a sentence has no tokens, or leads to a place, or ends in a word at the
place of an operator. -/
theorem exists_place_of_partial {tokens : List Token} (h : IsPartial (tokens.map Token.kind)) :
    tokens = [] ∨ ∃ before last place, tokens = before ++ [last] ∧
      Leads .operator (before.map Token.kind) place ∧
      ((∃ next, Step place last.kind next) ∨ place = .operator ∧ last.kind = .rawLiteral) := by
  rcases List.eq_nil_or_concat' tokens with rfl | ⟨before, last, rfl⟩
  · exact .inl rfl
  · rw [List.map_append] at h
    rcases h with hbegins | ⟨front, operator, hoperator, hbegins, hkinds⟩
    · obtain ⟨next, hleads⟩ := begins_iff.mp hbegins
      obtain ⟨place, hfront, hstep⟩ := hleads.exists_of_concat
      exact .inr ⟨before, last, place, rfl, hfront, .inl ⟨next, hstep⟩⟩
    · obtain ⟨rfl, hlast⟩ := List.append_inj' hkinds rfl
      obtain ⟨next, hleads⟩ := begins_iff.mp hbegins
      obtain ⟨place, hfront, hstep⟩ := hleads.exists_of_concat
      have hplace := eq_operator_of_step hoperator hstep
      exact .inr ⟨before, last, place, rfl, hfront, .inr ⟨hplace, List.singleton_inj.mp hlast⟩⟩

theorem complete_of_lex (hlex : lex typed.toList = .ok (before ++ [last])) :
    complete typed fields =
      afterToken typed fields last before.getLast? (governing (before ++ [last])) := by
  rw [complete, hlex]
  simp only [List.reverse_append, List.reverse_singleton, List.singleton_append,
    List.head?_reverse]

/-- Every candidate for a filter that begins a sentence begins one as well. -/
theorem partialFilter_of_candidate (hfields : ∀ field ∈ fields, FieldName field)
    (htyped : PartialFilter typed.toList) (h : candidate ∈ complete typed fields) :
    PartialFilter candidate.toList := by
  obtain ⟨kinds, ⟨tokens, hlex, rfl⟩, hpartial⟩ := htyped
  rcases exists_place_of_partial hpartial with
    rfl | ⟨before, last, place, rfl, hfront, ⟨next, hstep⟩ | ⟨rfl, hword⟩⟩
  · rw [complete, hlex] at h
    exact partialFilter_start h
  · rw [complete_of_lex hlex, afterToken_of_step hlex hfront hstep] at h
    exact partialFilter_of_mem_offered hlex hfront hstep (fieldName_of_mem_offeredFields hfields) h
  · rw [complete_of_lex hlex, afterToken_of_word hlex hfront hword] at h
    exact partialFilter_of_mem_afterWord hlex hfront h

end Offered

section Extending

variable {typed candidate : String} {fields : List String}

/-- Whether a filter ends in contents of marks, a closing mark or a word behind a comma. -/
def EndsInValue (text : List Char) : Prop :=
  ∃ before last, lex text = .ok (before ++ [last]) ∧
    ((∃ q : Quotation, last.kind = q.contents) ∨
      (∃ q : Quotation, last.kind = q.mark ∧ last.before = q.mode) ∨
      (last.kind = .rawLiteral ∧ ∃ front comma, before = front ++ [comma] ∧ comma.kind = .comma))

/-- Whether a filter ends where a value is due: behind a comma or an opening mark. -/
def EndsBeforeValue (text : List Char) : Prop :=
  ∃ before last, lex text = .ok (before ++ [last]) ∧
    (last.kind = .comma ∨ ∃ q : Quotation, last.kind = q.mark ∧ last.before = .call)

theorem prefix_append_sign (text : String) (sign : Char) :
    text.toList <+: (text ++ String.singleton sign).toList :=
  ⟨[sign], by simp⟩

theorem prefix_of_mem_closings {text : String} {governs : Option TokenKind × Nat}
    (h : candidate ∈ closings text governs) : text.toList <+: candidate.toList := by
  obtain ⟨sign, -, rfl⟩ := mem_closings h
  exact prefix_append_sign text sign

theorem prefix_of_mem_endings {many : Bool} {text : String} (h : candidate ∈ endings many text) :
    text.toList <+: candidate.toList := by
  obtain ⟨sign, -, rfl⟩ := exists_of_mem_endings h
  exact prefix_append_sign text sign

theorem eq_mode_of_contents {q : Quotation} {mode after : Mode}
    (h : q.contents.next? mode = some after) : mode = q.mode := by
  cases q <;> cases mode <;> cases h <;> rfl

theorem modes_of_comma {mode after : Mode} (h : TokenKind.comma.next? mode = some after) :
    mode = .call ∧ after = .call := by
  cases mode <;> cases h
  exact ⟨rfl, rfl⟩

/-- What is offered for a value goes on with the text as it was typed. -/
theorem prefix_of_mem_complete (htyped : EndsInValue typed.toList)
    (h : candidate ∈ complete typed fields) : typed.toList <+: candidate.toList := by
  obtain ⟨before, last, hlex, hlast⟩ := htyped
  rw [complete_of_lex hlex] at h
  rcases hlast with ⟨q, hcontents⟩ | ⟨q, hmark, hmode⟩ | ⟨hraw, front, comma, rfl, hcomma⟩
  · have hlegal := next?_of_lex hlex last (by simp)
    rw [hcontents] at hlegal
    rw [afterToken_of_contents (eq_mode_of_contents hlegal) hcontents] at h
    exact (prefix_append_sign typed q.sign).trans (prefix_of_mem_closings h)
  · rw [afterToken_of_mark hmode hmark] at h
    exact prefix_of_mem_closings h
  · have hlegal := next?_of_lex hlex comma (by simp)
    rw [hcomma] at hlegal
    have hmode : last.before = .call := by
      rw [List.append_assoc] at hlex
      rw [← after_eq_before hlex, (modes_of_comma hlegal).2]
    rw [afterToken_of_raw hmode hraw, List.getLast?_concat, afterRaw_of_comma hcomma] at h
    exact prefix_of_mem_endings h

theorem offeredFields_ne_nil (fields : List String) : offeredFields fields ≠ [] := by
  have hid : "id" ∈ offeredFields fields :=
    List.mem_eraseDups.mpr (List.mem_append_right fields List.mem_cons_self)
  exact List.ne_nil_of_mem hid

theorem endings_ne_nil (many : Bool) (text : String) : endings many text ≠ [] := by
  cases many <;> simp [endings]

/-- Only at a place where a value is due, inside of marks or not, there is nothing to offer. -/
theorem endsBeforeValue_of_offered_eq_nil {before : List Token} {last : Token} {place next : Place}
    (hlex : lex typed.toList = .ok (before ++ [last]))
    (hfront : Leads .operator (before.map Token.kind) place) (hstep : Step place last.kind next)
    (h : next.offered typed fields before.getLast? last = []) :
    EndsBeforeValue typed.toList := by
  refine ⟨before, last, hlex, ?_⟩
  cases next with
  | value many => exact .inl (eq_comma_of_step_value hstep)
  | opened many q =>
    have hmode := before_eq_mode_of_lex hlex hfront
    generalize hkind : last.kind = kind at hstep
    cases hstep with
    | quote hmark => exact .inr ⟨q, hmark, hmode⟩
  | operator => cases h
  | field many => exact absurd (List.map_eq_nil_iff.mp h) (offeredFields_ne_nil fields)
  | separator many => exact absurd (List.map_eq_nil_iff.mp h) (offeredFields_ne_nil fields)
  | filled many q => exact absurd h (endings_ne_nil many _)
  | ending many => exact absurd h (endings_ne_nil many _)
  | closed => cases h

theorem complete_eq_nil_of_endsBeforeValue (h : EndsBeforeValue typed.toList) :
    complete typed fields = [] := by
  obtain ⟨before, last, hlex, hcomma | ⟨q, hmark, hmode⟩⟩ := h
  · have hlegal := next?_of_lex hlex last (by simp)
    rw [hcomma] at hlegal
    rw [complete_of_lex hlex]
    simp only [afterToken, (modes_of_comma hlegal).1, closingMark, hcomma]
  · rw [complete_of_lex hlex, afterToken_of_opening hmode hmark]

/-- Nothing is offered where a value is due, and only there. -/
theorem complete_eq_nil_iff (htyped : PartialFilter typed.toList) :
    complete typed fields = [] ↔ EndsBeforeValue typed.toList := by
  refine ⟨fun h => ?_, complete_eq_nil_of_endsBeforeValue⟩
  obtain ⟨kinds, ⟨tokens, hlex, rfl⟩, hpartial⟩ := htyped
  rcases exists_place_of_partial hpartial with
    rfl | ⟨before, last, place, rfl, hfront, ⟨next, hstep⟩ | ⟨rfl, hword⟩⟩
  · rw [complete, hlex] at h
    cases h
  · rw [complete_of_lex hlex, afterToken_of_step hlex hfront hstep] at h
    exact endsBeforeValue_of_offered_eq_nil hlex hfront hstep h
  · rw [complete_of_lex hlex, afterToken_of_word hlex hfront hword] at h
    cases h

end Extending

/-- Completion stays within the grammar: a filter that begins a sentence, or has a word where an
operator is due, is completed to such filters only; a value is ended as it was typed; and something
is offered everywhere but where a value is due. -/
theorem partialFilter_of_mem_complete (typed : String) (fields : List String)
    (hfields : ∀ field ∈ fields, FieldName field) (htyped : PartialFilter typed.toList) :
    (∀ candidate ∈ complete typed fields, PartialFilter candidate.toList) ∧
      (EndsInValue typed.toList →
        ∀ candidate ∈ complete typed fields, typed.toList <+: candidate.toList) ∧
      (complete typed fields = [] ↔ EndsBeforeValue typed.toList) :=
  ⟨fun _ h => partialFilter_of_candidate hfields htyped h,
    fun hvalue _ h => prefix_of_mem_complete hvalue h,
    complete_eq_nil_iff htyped⟩

theorem lexesAs_of_toOption {text : List Char} {kinds : List TokenKind}
    (h : (lex text).toOption.map (List.map Token.kind) = some kinds) : LexesAs text kinds := by
  obtain ⟨tokens, htokens, hkinds⟩ := Option.map_eq_some_iff.mp h
  exact ⟨tokens, eq_ok_of_toOption_eq_some htokens, hkinds⟩

theorem partialFilter_of_mem_complete_list :
    PartialFilter "in(sku,b,'a b".toList ∧ EndsInValue "in(sku,b,'a b".toList ∧
      "in(sku,b,'a b'," ∈ complete "in(sku,b,'a b" ["sku"] ∧
      PartialFilter "in(sku,b,'a b',".toList ∧
      "in(sku,b,'a b".toList <+: "in(sku,b,'a b',".toList := by
  have hlexes : LexesAs "in(sku,b,'a b".toList [.varargOp, .rawLiteral, .comma, .rawLiteral,
      .comma, .singleQuote, .singleQuotedContents] :=
    lexesAs_of_toOption (by decide +kernel)
  have htyped : PartialFilter "in(sku,b,'a b".toList := by
    have hvalues : IsValues [.comma, .rawLiteral, .comma, .singleQuote, .singleQuotedContents,
        .singleQuote] := .more .raw (.one (.quoted .single))
    exact ⟨_, hlexes, .inl ⟨[.singleQuote, .rightParen], .call (.vararg hvalues)⟩⟩
  have hvalue : EndsInValue "in(sku,b,'a b".toList := by
    obtain ⟨tokens, hlex, hkinds⟩ := hlexes
    have hsplit : tokens.map Token.kind = [.varargOp, .rawLiteral, .comma, .rawLiteral, .comma,
        .singleQuote] ++ [.singleQuotedContents] := hkinds
    obtain ⟨before, more, rfl, -, hmore⟩ := List.map_eq_append_iff.mp hsplit
    obtain ⟨last, rfl, hlast⟩ := List.map_eq_singleton_iff.mp hmore
    exact ⟨before, last, hlex, .inl ⟨.single, hlast⟩⟩
  have hmem : "in(sku,b,'a b'," ∈ complete "in(sku,b,'a b" ["sku"] := by
    decide +kernel
  have hfields : ∀ field ∈ ["sku"], FieldName field := by
    decide
  obtain ⟨hwithin, hextends, -⟩ := partialFilter_of_mem_complete _ ["sku"] hfields htyped
  exact ⟨htyped, hvalue, hmem, hwithin _ hmem, hextends hvalue _ hmem⟩

end NextWord.Filter
