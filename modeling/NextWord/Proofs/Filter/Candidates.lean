import NextWord.Completion.Query
import NextWord.Proofs.Filter.Continued

/-!
# Candidates can be read

Every candidate for a filter can itself be read as a filter, so that it can be completed further,
with two exceptions. The key of an attribute is put behind an operator as it stands, brackets and
all, and some keys cannot be read in a call. And outside of calls a word may stand right behind
another word, as in `foo` and `bar` with a tab between them: operators are then put behind the first
of the two, whose letters run on into the operator's.
-/

namespace NextWord.Filter

/-- How a candidate comes about: an operator that starts anew; an operator, a field or a colon
behind what was consumed up to a token; or the end of the value that was typed. -/
inductive IsCandidate (typed : String) (fields : List String) : String → Prop
  | start {op : String} (hop : op ∈ Vocabulary.filterOperators) : IsCandidate typed fields op
  | operator {before after : List Token} {next : Token} {op : String}
      (hlex : lex typed.toList = .ok (before ++ next :: after))
      (hplace : (next.kind = .chain ∧ after = []) ∨
        ∃ word, after = [word] ∧ word.kind = .rawLiteral ∧ word.before = .regular)
      (hop : op ∈ Vocabulary.filterOperators) :
      IsCandidate typed fields (String.ofList next.consumed ++ op)
  | field {before after : List Token} {next : Token} {field : String}
      (hlex : lex typed.toList = .ok (before ++ next :: after))
      (hoperator : next.kind.isOperator = true) (hfield : field ∈ offeredFields fields) :
      IsCandidate typed fields (String.ofList next.consumed ++ field ++ ",")
  | chain {before : List Token} {last : Token} (hlex : lex typed.toList = .ok (before ++ [last]))
      (hkind : last.kind = .rightParen) :
      IsCandidate typed fields (String.ofList last.consumed ++ ":")
  | contents {before : List Token} {last : Token} {mark sign : Char}
      (hlex : lex typed.toList = .ok (before ++ [last])) (hmark : last.kind.mark? = some mark)
      (hsign : sign = ')' ∨ sign = ',') :
      IsCandidate typed fields (typed ++ String.singleton mark ++ String.singleton sign)
  | value {before : List Token} {last : Token} {sign : Char}
      (hlex : lex typed.toList = .ok (before ++ [last])) (hcall : last.after = .call)
      (hkind : last.kind = .rawLiteral ∨ last.kind.isClosed) (hsign : sign = ')' ∨ sign = ',') :
      IsCandidate typed fields (typed ++ String.singleton sign)

section Inversion

variable {typed candidate : String} {fields : List String}

theorem mem_closings {governs : Option TokenKind × Nat} (h : candidate ∈ closings typed governs) :
    ∃ sign, (sign = ')' ∨ sign = ',') ∧ candidate = typed ++ String.singleton sign := by
  rw [closings] at h
  split at h
  · exact ⟨')', .inl rfl, by simpa using h⟩
  · rcases List.mem_pair.mp h with h | h
    · exact ⟨')', .inl rfl, h⟩
    · exact ⟨',', .inr rfl, h⟩

theorem exists_of_mem_fieldsAfter {consumed : List Char}
    (h : candidate ∈ fieldsAfter consumed fields) :
    ∃ field ∈ fields, candidate = String.ofList consumed ++ field ++ "," := by
  obtain ⟨field, hfield, rfl⟩ := List.mem_map.mp h
  exact ⟨field, hfield, rfl⟩

theorem exists_of_mem_operatorsAfter {consumed : List Char}
    (h : candidate ∈ operatorsAfter consumed) :
    ∃ op ∈ Vocabulary.filterOperators, candidate = String.ofList consumed ++ op := by
  obtain ⟨op, hop, rfl⟩ := List.mem_map.mp h
  exact ⟨op, hop, rfl⟩

theorem isCandidate_of_mem_afterRaw {before : List Token} {last : Token}
    {governs : Option TokenKind × Nat} (hlex : lex typed.toList = .ok (before ++ [last]))
    (hkind : last.kind = .rawLiteral) (hcall : last.before = .call)
    (h : candidate ∈ afterRaw typed fields before.getLast? governs) :
    IsCandidate typed fields candidate := by
  rcases List.eq_nil_or_concat' before with rfl | ⟨before, previous, rfl⟩
  · cases h
  · have hlegal := next?_of_lex hlex last (by simp)
    have hafter : last.after = .call := by
      rw [hkind, hcall] at hlegal
      exact (Option.some.inj hlegal).symm
    rw [List.getLast?_concat] at h
    simp only [afterRaw] at h
    split at h
    · next hoperator =>
      obtain ⟨field, hfield, rfl⟩ := exists_of_mem_fieldsAfter h
      exact .field (by simpa using hlex) hoperator hfield
    · split at h
      · have hsigns : candidate = typed ++ ")" ∨ candidate = typed ++ "," := by
          split at h
          · exact List.mem_pair.mp h
          · exact .inl (List.mem_singleton.mp h)
        rcases hsigns with rfl | rfl
        · exact .value hlex hafter (.inl hkind) (.inl rfl)
        · exact .value hlex hafter (.inl hkind) (.inr rfl)
      · cases h

/-- Inside of marks a token is contents or the closing mark. -/
theorem isContents_or_closes {kind : TokenKind} {mode after : Mode} {mark : Char}
    (hmark : closingMark mode = some mark) (hlegal : kind.next? mode = some after) :
    (kind.isContents = true ∧ kind.mark? = some mark) ∨
      (kind.isContents = false ∧ kind.isClosed ∧ after = .call) := by
  cases mode <;> cases hmark <;> cases kind <;> cases hlegal <;>
    simp [TokenKind.isContents, TokenKind.mark?, TokenKind.isClosed, TokenKind.sign?]

theorem isCandidate_of_mem_afterToken {before : List Token} {last : Token}
    {governs : Option TokenKind × Nat} (hlex : lex typed.toList = .ok (before ++ [last]))
    (h : candidate ∈ afterToken typed fields last before.getLast? governs) :
    IsCandidate typed fields candidate := by
  have hlegal := next?_of_lex hlex last (by simp)
  rw [afterToken] at h
  split at h
  · next mark hmark =>
    rcases isContents_or_closes hmark hlegal with ⟨hcontents, hkind⟩ | ⟨hcontents, closed, hcall⟩
    · rw [if_pos hcontents] at h
      obtain ⟨sign, hsign, rfl⟩ := mem_closings h
      exact .contents hlex hkind hsign
    · rw [if_neg (by simp [hcontents])] at h
      obtain ⟨sign, hsign, rfl⟩ := mem_closings h
      exact .value hlex hcall (.inr closed) hsign
  · next hmode =>
    split at h
    · next hkind =>
      obtain ⟨field, hfield, rfl⟩ := exists_of_mem_fieldsAfter h
      exact .field hlex (by rw [hkind]; rfl) hfield
    · next hkind =>
      obtain ⟨field, hfield, rfl⟩ := exists_of_mem_fieldsAfter h
      exact .field hlex (by rw [hkind]; rfl) hfield
    · next hkind =>
      obtain ⟨op, hop, rfl⟩ := exists_of_mem_operatorsAfter h
      exact .operator hlex (.inl ⟨hkind, rfl⟩) hop
    · next hkind =>
      rw [List.mem_singleton.mp h]
      exact .chain hlex hkind
    · next hkind =>
      split at h
      · next hregular =>
        obtain ⟨op, hop, rfl⟩ := exists_of_mem_operatorsAfter h
        rcases List.eq_nil_or_concat' before with rfl | ⟨before, previous, rfl⟩
        · exact .start (by simpa using hop)
        · rw [List.getLast?_concat]
          exact .operator (by simpa using hlex) (.inr ⟨last, rfl, hkind, hregular⟩) hop
      · next hregular =>
        have hcall : last.before = .call := by
          rw [hkind] at hlegal
          cases hbefore : last.before <;> rw [hbefore] at hlegal hregular <;>
            first | rfl | cases hlegal | exact absurd rfl hregular
        exact isCandidate_of_mem_afterRaw hlex hkind hcall h
    · cases h

theorem isCandidate_of_mem_complete (h : candidate ∈ complete typed fields) :
    IsCandidate typed fields candidate := by
  rw [complete] at h
  split at h
  · exact .start h
  · next tokens hlex =>
    split at h
    · exact .start h
    · next last more hreverse =>
      obtain rfl : tokens = more.reverse ++ [last] := by
        rw [← List.reverse_reverse tokens, hreverse, List.reverse_cons]
      exact isCandidate_of_mem_afterToken hlex (by rw [List.getLast?_reverse]; exact h)

end Inversion

section Readable

theorem readable_of_reads {text rest : List Char} {mode : Mode} {consumed : List Char}
    {read : List Token → List Token}
    (h : lex text = (tokensFrom 0 mode consumed rest).map read) (hrest : Reads mode rest) :
    Readable text := by
  obtain ⟨tokens, htokens⟩ := (reads_iff consumed).mp hrest
  exact ⟨read tokens, by rw [h, htokens]; rfl⟩

def KeyReads (key : String) : Prop :=
  Reads .call (key.toList ++ [','])

/-- Keys of raw characters can be named in a call. -/
theorem keyReads_of_isRaw {key : String} (h : ∀ c ∈ key.toList, isRaw c = true) : KeyReads key := by
  have hcomma : Reads .call ([] ++ [',']) := reads_call_sign .nil (.inr rfl)
  rcases allBlank_or_split key.toList with hall | ⟨blanks, c, rest, hkey, hblanks, hc⟩
  · exact reads_call_sign hall (.inr rfl)
  · have hraw : ∀ d ∈ c :: rest, isRaw d = true := fun d hd =>
      h d (by rw [hkey]; exact List.mem_append_right blanks hd)
    have hword : IsWord key.toList := ⟨blanks, c, rest, hblanks, hc, hraw, hkey⟩
    exact (reads_call_word hword (by simp; decide)).mpr hcomma

/-- Whether a text ends in a key and a comma right behind an operator. -/
def NamesKey (text key : String) : Prop :=
  ∃ opening before operator, lex opening.toList = .ok (before ++ [operator]) ∧
    operator.kind.isOperator = true ∧ text = opening ++ key ++ ","

/-- Whether a text ends, outside of calls, in a word right behind another word. -/
def EndsInSecondWord (text : String) : Prop :=
  ∃ before first second, lex text.toList = .ok (before ++ [first, second]) ∧
    first.kind = .rawLiteral ∧ second.kind = .rawLiteral ∧ second.before = .regular

theorem not_space_of_filterOperator : ∀ op ∈ Vocabulary.filterOperators,
    op.toList.head? ≠ some ' ' ∧ op.toList.getLast? ≠ some ' ' := by
  decide

theorem readable_filterOperator {op : String} (h : op ∈ Vocabulary.filterOperators) :
    Readable op.toList := by
  obtain ⟨hhead, hlast⟩ := not_space_of_filterOperator op h
  rw [Readable, lex, trimSpaces_eq_self hhead hlast]
  exact reads_filterOperator h

/-- The token behind which an operator is put leads out of calls, and is a sign unless it is a word
that another one follows. -/
theorem isClosed_of_place {typed : String} {before after : List Token} {next : Token}
    (hlex : lex typed.toList = .ok (before ++ next :: after))
    (hplace : (next.kind = .chain ∧ after = []) ∨
      ∃ word, after = [word] ∧ word.kind = .rawLiteral ∧ word.before = .regular)
    (hword : ¬ EndsInSecondWord typed) : next.kind.isClosed ∧ next.after = .regular := by
  have hlegal := next?_of_lex hlex next (by simp)
  rcases hplace with ⟨hkind, -⟩ | ⟨word, rfl, hraw, hregular⟩
  · exact ⟨hkind ▸ .inl ⟨':', rfl⟩, after_of_leaving (.inl hkind) hlegal⟩
  · have hafter : next.after = .regular := (after_eq_before hlex).trans hregular
    rcases isClosed_or_raw_of_next? (hafter ▸ hlegal) with closed | hkind
    · exact ⟨closed, hafter⟩
    · exact absurd ⟨before, next, word, hlex, hkind, hraw, hregular⟩ hword

/-- An operator leads into a call. -/
theorem isClosed_of_isOperator {typed : String} {tokens : List Token} {next : Token}
    (hlex : lex typed.toList = .ok tokens) (hmem : next ∈ tokens)
    (hoperator : next.kind.isOperator = true) : next.kind.isClosed ∧ next.after = .call := by
  have hlegal := next?_of_lex hlex next hmem
  have hnames : ∃ names, next.kind.names? = some names := by
    cases hkind : next.kind <;> rw [hkind] at hoperator <;>
      first | exact ⟨_, rfl⟩ | cases hoperator
  obtain ⟨names, hnames⟩ := hnames
  exact ⟨.inr ⟨names, hnames⟩, (next?_of_names hnames hlegal).2⟩

/-- Contents can be ended by their mark, and the call or the value behind them. -/
theorem readable_of_contents {typed : List Char} {before : List Token} {last : Token}
    (hlex : lex typed = .ok (before ++ [last])) {mark : Char} (hmark : last.kind.mark? = some mark)
    {sign : Char} (hsign : sign = ')' ∨ sign = ',') : Readable (typed ++ [mark, sign]) := by
  obtain ⟨spaces, hspaces, hread⟩ := lex_typed_append hlex
  have hlegal := next?_of_lex hlex last (by simp)
  have hlong : IsContents mark (last.text ++ spaces) :=
    (isContents_of_lex hlex (by simp) hmark).append
      (isContents_spaces (TokenKind.isBlank_of_mark hmark) hspaces)
  have hclose : Reads .call ([] ++ [sign]) := reads_call_sign .nil hsign
  have hrest : Reads last.before (last.text ++ (spaces ++ [mark, sign])) := by
    rw [← List.append_assoc]
    exact (reads_contents hmark hlegal hlong [sign]).mpr hclose
  exact readable_of_reads (hread _ (by simp) (by rcases hsign with rfl | rfl <;> simp)) hrest

/-- A value in a call can be ended as it was typed, spaces behind it included. -/
theorem readable_of_value {typed : List Char} {before : List Token} {last : Token}
    (hlex : lex typed = .ok (before ++ [last])) (hcall : last.after = .call)
    (hkind : last.kind = .rawLiteral ∨ last.kind.isClosed) {sign : Char}
    (hsign : sign = ')' ∨ sign = ',') : Readable (typed ++ [sign]) := by
  obtain ⟨spaces, hspaces, hread⟩ := lex_typed_append hlex
  have hlegal := next?_of_lex hlex last (by simp)
  have hrest : Reads last.before (last.text ++ (spaces ++ [sign])) := by
    rcases hkind with hraw | closed
    · have hbefore : last.before = .call := (before_of_raw (hraw ▸ hlegal)).trans hcall
      have hword := (isWord_of_lex hlex last (by simp) hraw).append_spaces hspaces
      have hstop : ∀ c ∈ [sign].head?, isRaw c = false := by
        rcases hsign with rfl | rfl <;> simp <;> decide
      have hclose : Reads .call ([] ++ [sign]) := reads_call_sign .nil hsign
      rw [hbefore, ← List.append_assoc]
      exact (reads_call_word hword hstop).mpr hclose
    · rw [reads_append_of_isClosed hlex (by simp) closed, hcall]
      exact reads_call_sign (allBlank_of_spaces hspaces) hsign
  exact readable_of_reads (hread _ (by simp) (by rcases hsign with rfl | rfl <;> simp)) hrest

end Readable

/-- Every candidate for a filter can be read as a filter, unless it puts an operator behind a word
or names a key that cannot be named in a call. -/
theorem readable_of_mem_complete (resource : Option Resource) (typed candidate : String)
    (h : candidate ∈ complete typed (Context.filterFields resource))
    (hkey : ∀ key ∈ Context.filterFields resource, NamesKey candidate key → KeyReads key)
    (hword : ¬ EndsInSecondWord typed) : Readable candidate.toList := by
  have hcandidate := isCandidate_of_mem_complete h
  cases hcandidate with
  | start hop => exact readable_filterOperator hop
  | @operator before after next op hlex hplace hop =>
    obtain ⟨closed, hafter⟩ := isClosed_of_place hlex hplace hword
    have hread := lex_consumed_append_of_isClosed hlex closed _
      (not_space_of_filterOperator op hop).2
    rw [String.toList_append, String.toList_ofList]
    exact readable_of_reads hread (hafter ▸ reads_filterOperator hop)
  | @field before after next field hlex hoperator hfield =>
    obtain ⟨closed, hafter⟩ := isClosed_of_isOperator hlex (by simp) hoperator
    have hkeyReads : KeyReads field := by
      rcases List.mem_append.mp (List.mem_eraseDups.mp hfield) with hown | himplicit
      · refine hkey field hown ⟨String.ofList next.consumed, before, next, ?_, hoperator, rfl⟩
        have hopening := lex_consumed_append_of_isClosed hlex closed [] (by simp)
        simpa [tokensFrom, Except.map] using hopening
      · have hraw : ∀ field ∈ Vocabulary.filterImplicitFields, field.toList.all isRaw = true := by
          decide
        exact keyReads_of_isRaw (List.all_eq_true.mp (hraw field himplicit))
    have hread := lex_consumed_append_of_isClosed hlex closed (field.toList ++ [',']) (by simp)
    have htext : (String.ofList next.consumed ++ field ++ ",").toList =
        next.consumed ++ (field.toList ++ [',']) := by
      simp
    rw [htext]
    exact readable_of_reads hread (hafter ▸ hkeyReads)
  | @chain before last hlex hkind =>
    have hlegal := next?_of_lex hlex last (by simp)
    have closed : last.kind.isClosed := hkind ▸ .inl ⟨')', rfl⟩
    have hafter := after_of_leaving (.inr hkind) hlegal
    have hread := lex_consumed_append_of_isClosed hlex closed [':'] (by simp)
    have hcolon : Reads .regular ([] ++ [':']) :=
      (reads_sign .chain rfl rfl .nil []).mpr (reads_nil .regular)
    rw [String.toList_append, String.toList_ofList]
    exact readable_of_reads hread (hafter ▸ hcolon)
  | contents hlex hmark hsign => simpa using readable_of_contents hlex hmark hsign
  | value hlex hcall hkind hsign => simpa using readable_of_value hlex hcall hkind hsign

/-- A resource with a key that can be named in a call and one that cannot. -/
def parcels : Resource :=
  { name := "parcels"
    attributes := [("address.city", { key := "address.city" }),
      ("items[n].sku", { key := "items[n].sku" })] }

theorem readable_of_mem_complete_city :
    "eq(address.city," ∈ complete "eq(a" (Context.filterFields (some parcels)) ∧
      Readable "eq(address.city,".toList := by
  have hmem : "eq(address.city," ∈ complete "eq(a" (Context.filterFields (some parcels)) := by
    decide +kernel
  have hfields : Context.filterFields (some parcels) = ["address.city", "items[n].sku"] := by
    decide +kernel
  refine ⟨hmem, readable_of_mem_complete _ _ _ hmem (fun key hkey hnames => ?_) ?_⟩
  · rw [hfields] at hkey
    rcases List.mem_pair.mp hkey with rfl | rfl
    · exact keyReads_of_isRaw (List.all_eq_true.mp (by decide))
    · obtain ⟨opening, -, -, -, -, htext⟩ := hnames
      have hend : "items[n].sku,".toList <:+ "eq(address.city,".toList :=
        ⟨opening.toList, by rw [htext]; simp⟩
      exact absurd hend (by decide)
  · rintro ⟨before, first, second, hlex, hfirst, -⟩
    have hkinds : (lex "eq(a".toList).toOption.map (List.map Token.kind) =
        some [.binaryOp, .rawLiteral] := by
      decide +kernel
    rw [hlex] at hkinds
    have hpair : before.map Token.kind ++ [first.kind, second.kind] = [.binaryOp, .rawLiteral] := by
      simpa [Except.toOption] using hkinds
    obtain ⟨-, hkind⟩ := List.append_inj' (hpair.trans (List.nil_append _).symm) rfl
    simp [hfirst] at hkind

/-- Some candidates cannot be read: one that names a key with brackets, and one that puts an
operator behind a word. -/
theorem exists_unreadable_candidates :
    ("eq(items[n].sku," ∈ complete "eq(" (Context.filterFields (some parcels)) ∧
      ¬ Readable "eq(items[n].sku,".toList) ∧
    ("fooeq(" ∈ complete "foo\tbar" (Context.filterFields (some parcels)) ∧
      ¬ Readable "fooeq(".toList) := by
  have hunread (text : String) (h : (lex text.toList).toOption = none) :
      ¬ Readable text.toList := by
    rintro ⟨tokens, htokens⟩
    rw [htokens] at h
    cases h
  exact ⟨⟨by decide +kernel, hunread _ (by decide +kernel)⟩,
    ⟨by decide +kernel, hunread _ (by decide +kernel)⟩⟩

end NextWord.Filter
