import NextWord.Proofs.Filter.Places

/-!
# What is offered at a place

Where the tokens of a filter lead to a place in a sentence, the place alone decides what is offered,
although the completion looks at the last two tokens, the operator that governs them and the commas
behind it.
-/

namespace NextWord.Filter

/-- The ends of a value, or of a value with a mark: of the call, or of this value alone. -/
def endings (many : Bool) (text : String) : List String :=
  if many then [text ++ ")", text ++ ","] else [text ++ ")"]

/-- What is offered at a place behind the last token and the one before it. -/
def Place.offered (typed : String) (fields : List String) (previous : Option Token)
    (last : Token) : Place → List String
  | .operator => operatorsAfter last.consumed
  | .field _ => fieldsAfter last.consumed (offeredFields fields)
  | .separator _ => fieldsAfter ((previous.map Token.consumed).getD []) (offeredFields fields)
  | .value _ => []
  | .opened _ _ => []
  | .filled many q => endings many (typed ++ String.singleton q.sign)
  | .ending many => endings many typed
  | .closed => [String.ofList last.consumed ++ ":"]

variable {typed : String} {fields : List String} {before : List Token} {last : Token}
variable {place next : Place} {kind : TokenKind}

section Steps

theorem isOperator_of_step_field {many : Bool} (h : Step place kind (.field many)) :
    kind.isOperator = true := by
  cases h <;> rfl

theorem eq_field_of_step_separator {many : Bool} (h : Step place kind (.separator many)) :
    place = .field many := by
  cases h
  rfl

theorem eq_comma_of_step_value {many : Bool} (h : Step place kind (.value many)) :
    kind = .comma := by
  cases h <;> rfl

theorem eq_operator_of_step (hkind : kind.isOperator = true) (h : Step place kind next) :
    place = .operator := by
  cases h with
  | binary => rfl
  | vararg => rfl
  | quote hmark => simp [hmark, Quotation.mark_keeps] at hkind
  | contents hcontents => simp [hcontents, Quotation.contents_keeps] at hkind
  | unquoteEmpty hmark => simp [hmark, Quotation.mark_keeps] at hkind
  | unquote hmark => simp [hmark, Quotation.mark_keeps] at hkind
  | _ => cases hkind

/-- Behind the first token of a sentence there is a token before each. -/
theorem exists_previous (hfront : Leads .operator (before.map Token.kind) place)
    (hplace : place ≠ .operator) : ∃ front previous earlier, before = front ++ [previous] ∧
      Leads .operator (front.map Token.kind) earlier ∧ Step earlier previous.kind place := by
  rcases List.eq_nil_or_concat' before with rfl | ⟨front, previous, rfl⟩
  · cases hfront
    exact absurd rfl hplace
  · rw [List.map_append] at hfront
    obtain ⟨earlier, hearlier, hstep⟩ := hfront.exists_of_concat
    exact ⟨front, previous, earlier, rfl, hearlier, hstep⟩

end Steps

section AfterToken

variable {previous : Option Token} {governs : Option TokenKind × Nat}

theorem closings_of_governed {many : Bool}
    (h : governs.1 = some (operatorKind many) ∧ 1 ≤ governs.2) (text : String) :
    closings text governs = endings many text := by
  rw [closings, h.1]
  cases many with
  | false => exact if_pos ⟨rfl, h.2⟩
  | true => exact if_neg (by rintro ⟨hbinary, -⟩; cases hbinary)

theorem afterToken_of_contents {q : Quotation} (hmode : last.before = q.mode)
    (hkind : last.kind = q.contents) : afterToken typed fields last previous governs =
      closings (typed ++ String.singleton q.sign) governs := by
  simp only [afterToken, hmode, q.closingMark_mode, hkind, q.isContents_contents, if_true]

theorem afterToken_of_mark {q : Quotation} (hmode : last.before = q.mode)
    (hkind : last.kind = q.mark) :
    afterToken typed fields last previous governs = closings typed governs := by
  simp only [afterToken, hmode, q.closingMark_mode, hkind, q.isContents_mark, Bool.false_eq_true,
    if_false]

theorem afterToken_of_opening {q : Quotation} (hmode : last.before = .call)
    (hkind : last.kind = q.mark) : afterToken typed fields last previous governs = [] := by
  cases q <;> simp only [afterToken, hmode, closingMark, hkind, Quotation.mark]

theorem afterToken_of_raw (hmode : last.before = .call) (hkind : last.kind = .rawLiteral) :
    afterToken typed fields last previous governs = afterRaw typed fields previous governs := by
  simp only [afterToken, hmode, closingMark, hkind, reduceCtorEq, if_false]

theorem afterRaw_of_isOperator {operator : Token} (h : operator.kind.isOperator = true) :
    afterRaw typed fields (some operator) governs =
      fieldsAfter operator.consumed (offeredFields fields) := by
  simp only [afterRaw, h, if_true]

theorem afterRaw_of_comma {comma : Token} (hcomma : comma.kind = .comma) :
    afterRaw typed fields (some comma) governs =
      endings (decide (governs.1 = some .varargOp)) typed := by
  have hoperator : ¬ comma.kind.isOperator = true := by
    rw [hcomma]
    decide
  simp only [afterRaw, if_neg hoperator, if_pos hcomma, endings, decide_eq_true_eq]

theorem decide_varargOp {many : Bool} (h : governs.1 = some (operatorKind many)) :
    decide (governs.1 = some .varargOp) = many := by
  rw [h]
  cases many <;> rfl

end AfterToken

/-- The place to which the tokens of a filter lead decides what is offered. -/
theorem afterToken_of_step {text : List Char} (hlex : lex text = .ok (before ++ [last]))
    (hfront : Leads .operator (before.map Token.kind) place) (hstep : Step place last.kind next) :
    afterToken typed fields last before.getLast? (governing (before ++ [last])) =
      next.offered typed fields before.getLast? last := by
  have hmode := before_eq_mode_of_lex hlex hfront
  have hgoverned : next.Governed (governing (before ++ [last])) :=
    governed_of_leads (by simpa using hfront.concat hstep)
  generalize governing (before ++ [last]) = governs at hgoverned
  generalize hkind : last.kind = kind at hstep
  -- A word is read by what stands before it, so only there the run in front is looked at.
  cases hstep with
  | binary => simp only [afterToken, hmode, Place.mode, closingMark, hkind, Place.offered]
  | vararg => simp only [afterToken, hmode, Place.mode, closingMark, hkind, Place.offered]
  | field =>
    obtain ⟨front, operator, earlier, rfl, -, hoperator⟩ := exists_previous hfront (by simp)
    rw [afterToken_of_raw hmode hkind, List.getLast?_concat,
      afterRaw_of_isOperator (isOperator_of_step_field hoperator)]
    rfl
  | separator => simp only [afterToken, hmode, Place.mode, closingMark, hkind, Place.offered]
  | raw =>
    obtain ⟨front, comma, earlier, rfl, -, hcomma⟩ := exists_previous hfront (by simp)
    rw [afterToken_of_raw hmode hkind, List.getLast?_concat,
      afterRaw_of_comma (eq_comma_of_step_value hcomma), decide_varargOp hgoverned.1]
    rfl
  | quote hmark => rw [afterToken_of_opening hmode (hkind.trans hmark), Place.offered]
  | contents hcontents =>
    rw [afterToken_of_contents hmode (hkind.trans hcontents), closings_of_governed hgoverned]
    rfl
  | unquoteEmpty hmark =>
    rw [afterToken_of_mark hmode (hkind.trans hmark), closings_of_governed hgoverned]
    rfl
  | unquote hmark =>
    rw [afterToken_of_mark hmode (hkind.trans hmark), closings_of_governed hgoverned]
    rfl
  | paren => simp only [afterToken, hmode, Place.mode, closingMark, hkind, Place.offered]
  | comma => simp only [afterToken, hmode, Place.mode, closingMark, hkind, Place.offered]
  | chain => simp only [afterToken, hmode, Place.mode, closingMark, hkind, Place.offered]

end NextWord.Filter
