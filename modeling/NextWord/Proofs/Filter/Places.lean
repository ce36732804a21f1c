import Mathlib.Data.List.Induction
import NextWord.Proofs.Filter.KindsRead

/-!
# Places of the tokens of a filter

Where the tokens of a filter lead to a place in a sentence, the place fixes the mode in which the
next token is read. Inside of a call it also fixes the operator that governs it, and that there was
a comma once a value is due.
-/

namespace NextWord.Filter

variable {place next : Place} {kind : TokenKind}

def Place.mode : Place → Mode
  | .operator => .regular
  | .closed => .regular
  | .opened _ q => q.mode
  | .filled _ q => q.mode
  | _ => .call

def operatorKind (many : Bool) : TokenKind :=
  if many then .varargOp else .binaryOp

/-- What governs a place in a call: its operator, and commas once a value is due. -/
def Place.Governed : Place → Option TokenKind × Nat → Prop
  | .operator, _ => True
  | .closed, _ => True
  | .field many, governs => governs.1 = some (operatorKind many)
  | .separator many, governs => governs.1 = some (operatorKind many)
  | .value many, governs => governs.1 = some (operatorKind many) ∧ 1 ≤ governs.2
  | .opened many _, governs => governs.1 = some (operatorKind many) ∧ 1 ≤ governs.2
  | .filled many _, governs => governs.1 = some (operatorKind many) ∧ 1 ≤ governs.2
  | .ending many, governs => governs.1 = some (operatorKind many) ∧ 1 ≤ governs.2

/-- What leads on from a place is legal in its mode. -/
theorem Step.next?_mode (h : Step place kind next) : kind.next? place.mode = some next.mode := by
  cases h with
  | quote hkind => exact hkind ▸ Quotation.next?_mark_call _
  | contents hkind => exact hkind ▸ Quotation.next?_contents _
  | unquoteEmpty hkind => exact hkind ▸ Quotation.next?_mark_mode _
  | unquote hkind => exact hkind ▸ Quotation.next?_mark_mode _
  | _ => rfl

theorem Quotation.mark_keeps (q : Quotation) : q.mark.isOperator = false ∧ q.mark ≠ .comma := by
  cases q <;> decide

theorem Quotation.contents_keeps (q : Quotation) :
    q.contents.isOperator = false ∧ q.contents ≠ .comma := by
  cases q <;> decide

section Governing

variable {tokens : List Token} {token : Token}

theorem governing_concat (tokens : List Token) (token : Token) :
    governing (tokens ++ [token]) =
      if token.kind.isOperator then (some token.kind, 0)
      else if token.kind = .comma then ((governing tokens).1, (governing tokens).2 + 1)
      else governing tokens := by
  rw [governing, List.foldl_concat]
  rfl

theorem governing_of_isOperator (hkind : token.kind = kind) (h : kind.isOperator = true) :
    governing (tokens ++ [token]) = (some kind, 0) := by
  subst hkind
  rw [governing_concat, if_pos h]

theorem governing_of_comma (h : token.kind = .comma) :
    governing (tokens ++ [token]) = ((governing tokens).1, (governing tokens).2 + 1) := by
  rw [governing_concat, if_neg (by rw [h]; decide), if_pos h]

/-- Only operators and commas count for what governs. -/
theorem governing_of_keeps (hkind : token.kind = kind)
    (h : kind.isOperator = false ∧ kind ≠ .comma) :
    governing (tokens ++ [token]) = governing tokens := by
  subst hkind
  rw [governing_concat, if_neg (by simp [h.1]), if_neg h.2]

/-- A token that leads on from a place keeps the call governed. -/
theorem Step.governed (h : Step place token.kind next)
    (hplace : place.Governed (governing tokens)) :
    next.Governed (governing (tokens ++ [token])) := by
  generalize hkind : token.kind = kind at h
  cases h with
  | binary =>
    rw [governing_of_isOperator hkind rfl]
    rfl
  | vararg =>
    rw [governing_of_isOperator hkind rfl]
    rfl
  | field =>
    rw [governing_of_keeps hkind (by decide)]
    exact hplace
  | separator =>
    rw [governing_of_comma hkind]
    exact ⟨hplace, Nat.le_add_left 1 _⟩
  | raw =>
    rw [governing_of_keeps hkind (by decide)]
    exact hplace
  | quote hmark =>
    rw [governing_of_keeps (hkind.trans hmark) (Quotation.mark_keeps _)]
    exact hplace
  | contents hcontents =>
    rw [governing_of_keeps (hkind.trans hcontents) (Quotation.contents_keeps _)]
    exact hplace
  | unquoteEmpty hmark =>
    rw [governing_of_keeps (hkind.trans hmark) (Quotation.mark_keeps _)]
    exact hplace
  | unquote hmark =>
    rw [governing_of_keeps (hkind.trans hmark) (Quotation.mark_keeps _)]
    exact hplace
  | paren => trivial
  | comma =>
    rw [governing_of_comma hkind]
    exact ⟨hplace.1, Nat.le_add_left 1 _⟩
  | chain => trivial

/-- A place to which tokens lead is governed by what the tokens say. -/
theorem governed_of_leads (h : Leads .operator (tokens.map Token.kind) place) :
    place.Governed (governing tokens) := by
  induction tokens using List.reverseRecOn generalizing place with
  | nil =>
    cases h
    trivial
  | append_singleton front token ih =>
    rw [List.map_append] at h
    obtain ⟨before, hfront, hstep⟩ := h.exists_of_concat
    exact hstep.governed (ih hfront)

end Governing

/-- A token is read in the mode of its place. -/
theorem before_eq_mode {consumed text : List Char} {before after : List Token} {last : Token}
    (h : tokensFrom 0 place.mode consumed text = .ok (before ++ last :: after))
    (hplace : Leads place (before.map Token.kind) next) : last.before = next.mode := by
  induction before generalizing place consumed text with
  | nil =>
    cases hplace
    obtain ⟨rest, rfl, hat, -⟩ := tokensFrom_eq_cons.mp h
    exact (tokenAt?_eq_some.mp hat).1
  | cons token before ih =>
    obtain ⟨rest, rfl, hat, hrest⟩ := tokensFrom_eq_cons.mp h
    cases hplace with
    | cons hstep hplace =>
      obtain ⟨-, -, hafter, -⟩ := tokenAt?_eq_some.mp hat
      rw [hstep.next?_mode] at hafter
      exact ih (Option.some.inj hafter ▸ hrest) hplace

theorem before_eq_mode_of_lex {typed : List Char} {before after : List Token} {last : Token}
    (hlex : lex typed = .ok (before ++ last :: after))
    (hplace : Leads .operator (before.map Token.kind) place) : last.before = place.mode := by
  have hread : tokensFrom 0 Place.operator.mode [] (trimSpaces typed) =
      .ok (before ++ last :: after) := hlex
  exact before_eq_mode hread hplace

theorem after_eq_mode_of_lex {typed : List Char} {before after : List Token} {last : Token}
    (hlex : lex typed = .ok (before ++ last :: after))
    (hplace : Leads .operator (before.map Token.kind) place) (hstep : Step place last.kind next) :
    last.after = next.mode := by
  have hlegal := next?_of_lex hlex last (by simp)
  rw [before_eq_mode_of_lex hlex hplace, hstep.next?_mode] at hlegal
  exact (Option.some.inj hlegal).symm

end NextWord.Filter
