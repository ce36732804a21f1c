import NextWord.Proofs.Outcome
import NextWord.Pattern.Segment

/-!
# Reading a sequence step by step

Reading a sequence goes from token to token. Either it stops, at the end, at a bar or at a closing
parenthesis, or it takes one step: it reads a piece, skips what verbose expressions skip, or repeats
the piece in front. What a step can do is told once here, so that no later argument has to open the
reader itself.
-/

namespace NextWord.Regex

variable {options : RegexOptions} {g after : Groups} {before : List Piece}
  {text rest left : List Token} {fuel : Nat}

/-- One step of reading a sequence: what it makes of the groups, of the pieces in front and of the
text. A parenthesis is read with the fuel that is left. -/
inductive Step (fuel : Nat) (options : RegexOptions) (g : Groups) (before : List Piece) :
    List Token → Groups → List Piece → List Token → Prop
  | escape {c : Char} {piece : Piece} {rest left : List Token}
      (h : escape? options g c rest = some (piece, left)) :
      Step fuel options g before (.escaped c :: rest) g (piece :: before) left
  | set {test : CharTest} {rest left : List Token} (h : set? options rest = some (test, left)) :
      Step fuel options g before (.plain '[' :: rest) g (testPiece test :: before) left
  | parenthesis {opening : Opening} {piece : Option Piece} {after : Groups} {rest left : List Token}
      (opens : opening? options g rest = some opening)
      (h : parenthesis fuel options g opening = .ok (piece, after, left)) :
      Step fuel options g before (.plain '(' :: rest) after (piece.toList ++ before) left
  | alone {c : Char} {pieces : List Piece} {rest : List Token}
      (h : ∀ fuel rest, items (fuel + 1) options g before (.plain c :: rest) =
        items fuel options g pieces rest) :
      Step fuel options g before (.plain c :: rest) g pieces rest
  | comment {rest : List Token} (verbose : options.verbose = true) :
      Step fuel options g before (.plain '#' :: rest) g before (afterLine rest)
  | brace {c : Char} {rest : List Token} (mark : Pattern.isQuantifier c = true)
      (h : quantifier c rest = .brace) :
      Step fuel options g before (.plain c :: rest) g (codePiece options c.toNat :: before) rest
  | repeated {c : Char} {least : Nat} {most : Option Nat} {piece : Piece} {others : List Piece}
      {rest behind : List Token} (mark : Pattern.isQuantifier c = true)
      (h : quantifier c rest = .rounds least most behind) (front : before = piece :: others)
      (kind : piece.kind = .other) :
      Step fuel options g before (.plain c :: rest) g
        (piece.repeated (greed behind).1 least most :: others) (greed behind).2

theorem eq_some_of_orMalformed {α : Type} {found : Option α} {a : α}
    (h : orMalformed found = .ok a) : found = some a := by
  cases found with
  | none => cases h
  | some b => exact congrArg some (Except.ok.inj h)

theorem Step.items_eq {pieces : List Piece}
    (step : Step fuel options g before text after pieces left) :
    items (fuel + 1) options g before text = items fuel options after pieces left := by
  cases step with
  | escape h =>
    rw [items, h]
    rfl
  | set h =>
    rw [items, h]
    rfl
  | parenthesis opens h =>
    rw [items, opens]
    change (Regex.parenthesis fuel options g _ >>= _) = _
    rw [h]
    rfl
  | alone h => exact h _ _
  | comment verbose => rw [items] <;> simp [verbose, isVerboseSpace]
  | brace mark h =>
    rcases Pattern.isQuantifier_iff.mp mark with rfl | rfl | rfl | rfl
    all_goals rw [items] <;> simp [isVerboseSpace, h]
  | repeated mark h front kind =>
    subst front
    rcases Pattern.isQuantifier_iff.mp mark with rfl | rfl | rfl | rfl
    all_goals rw [items] <;> simp [isVerboseSpace, h, kind]

def Stops (text : List Token) : Prop :=
  text = [] ∨ ∃ rest, text = .plain '|' :: rest ∨ text = .plain ')' :: rest

/-- Reading a sequence stops, or takes a step and goes on. -/
theorem stops_or_exists_step {body : List Item}
    (h : items (fuel + 1) options g before text = .ok (body, after, left)) :
    (Stops text ∧ body = before.reverse.flatMap Piece.items ∧ after = g ∧ left = text) ∨
      ∃ middle pieces rest, Step fuel options g before text middle pieces rest ∧
        items fuel options middle pieces rest = .ok (body, after, left) := by
  have alone {c : Char} {pieces : List Piece} {rest : List Token}
      (read : ∀ fuel rest, items (fuel + 1) options g before (.plain c :: rest) =
        items fuel options g pieces rest)
      (h : items fuel options g pieces rest = .ok (body, after, left)) :
      ∃ middle pieces others, Step fuel options g before (.plain c :: rest) middle pieces others ∧
        items fuel options middle pieces others = .ok (body, after, left) :=
    ⟨g, pieces, rest, .alone read, h⟩
  -- One case for each clause of the reader: three at which it stops, then its steps.
  unfold items at h
  split at h
  · obtain ⟨rfl, rfl, rfl⟩ : _ ∧ _ ∧ _ := by simpa using Except.ok.inj h
    exact .inl ⟨.inl rfl, rfl, rfl, rfl⟩
  · next rest =>
    obtain ⟨rfl, rfl, rfl⟩ : _ ∧ _ ∧ _ := by simpa using Except.ok.inj h
    exact .inl ⟨.inr ⟨rest, .inl rfl⟩, rfl, rfl, rfl⟩
  · next rest =>
    obtain ⟨rfl, rfl, rfl⟩ : _ ∧ _ ∧ _ := by simpa using Except.ok.inj h
    exact .inl ⟨.inr ⟨rest, .inr rfl⟩, rfl, rfl, rfl⟩
  · obtain ⟨⟨piece, rest⟩, hpiece, h⟩ := exists_of_except_bind h
    exact .inr ⟨_, _, _, .escape (eq_some_of_orMalformed hpiece), h⟩
  · obtain ⟨⟨test, rest⟩, htest, h⟩ := exists_of_except_bind h
    exact .inr ⟨_, _, _, .set (eq_some_of_orMalformed htest), h⟩
  · obtain ⟨opening, hopening, h⟩ := exists_of_except_bind h
    obtain ⟨⟨piece, middle, rest⟩, hpiece, h⟩ := exists_of_except_bind h
    exact .inr ⟨_, _, _, .parenthesis (eq_some_of_orMalformed hopening) hpiece, h⟩
  · exact .inr (alone (fun _ _ => by rw [items]) h)
  · exact .inr (alone (fun _ _ => by rw [items]) h)
  · exact .inr (alone (fun _ _ => by rw [items]) h)
  · next c rest not_bar not_close not_class not_group not_caret not_dollar not_dot =>
    split at h
    · next skipped =>
      refine .inr (alone (fun _ _ => ?_) h)
      rw [items, if_pos skipped] <;> assumption
    next kept =>
    split at h
    · next comment =>
      obtain ⟨verbose, rfl⟩ := comment
      exact .inr ⟨_, _, _, .comment verbose, h⟩
    next code =>
    split at h
    · next hmark =>
      have mark := Pattern.isQuantifier_iff.mpr hmark
      split at h
      · next hbrace => exact .inr ⟨_, _, _, .brace mark hbrace, h⟩
      · cases h
      · next hrounds =>
        split at h
        · cases h
        · next piece others =>
          split at h
          · next kind => exact .inr ⟨_, _, _, .repeated mark hrounds rfl kind, h⟩
          · cases h
    · next not_mark =>
      refine .inr (alone (fun _ _ => ?_) h)
      rw [items, if_neg kept, if_neg code, if_neg not_mark] <;> assumption

theorem items_nil_left {body : List Item}
    (h : items fuel options g before [] = .ok (body, after, left)) : left = [] := by
  cases fuel with
  | zero => cases h
  | succ fuel =>
    rw [items] at h
    obtain ⟨-, -, rfl⟩ : _ ∧ _ ∧ _ := by simpa using Except.ok.inj h
    rfl

theorem moreAlternatives_nil_left {bodies : List (List Item)}
    (h : moreAlternatives fuel options g [] = .ok (bodies, after, left)) : after = g ∧ left = [] := by
  cases fuel with
  | zero => cases h
  | succ fuel =>
    obtain ⟨-, rfl, rfl⟩ : _ ∧ _ ∧ _ := by simpa [moreAlternatives] using Except.ok.inj h
    exact ⟨rfl, rfl⟩

end NextWord.Regex
