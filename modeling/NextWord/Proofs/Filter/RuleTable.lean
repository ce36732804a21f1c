import NextWord.Proofs.Filter.FirstToken
import NextWord.Proofs.Outcome

/-!
# Reading by the table of rules

The table says, for a mode and a text, which token may be read: one of the first kind that is legal
in the mode and takes something at the start of the text. Tokens follow the table if each of them
may be read where it stands, in the mode that the one before it leaves. A filter is read as the
tokens that follow the table to its end; it cannot be read where tokens follow the table to a place
at which no legal kind takes anything of what is left.
-/

namespace NextWord.Filter

section Reader

theorem tokensFrom_skip (skip : Nat) (mode : Mode) (consumed text : List Char) :
    tokensFrom skip mode consumed text = tokensFrom 0 mode consumed (text.drop skip) := by
  induction text generalizing skip with
  | nil => cases skip <;> simp [tokensFrom]
  | cons c rest ih =>
    cases skip with
    | zero => rfl
    | succ skip => rw [tokensFrom, ih, List.drop_succ_cons]

theorem tokensFrom_eq_nil {mode : Mode} {consumed text : List Char} :
    tokensFrom 0 mode consumed text = .ok [] ↔ text = [] := by
  cases text with
  | nil => simp [tokensFrom]
  | cons c rest =>
    rw [tokensFrom]
    split
    · simp
    · split <;> simp

theorem tokensFrom_of_tokenAt? {mode : Mode} {consumed rest : List Char} {token : Token}
    (h : tokenAt? mode consumed (token.text ++ rest) = some token) :
    tokensFrom 0 mode consumed (token.text ++ rest) =
      (tokensFrom 0 token.after token.consumed rest).map (token :: ·) := by
  obtain ⟨-, -, -, htaken, -⟩ := tokenAt?_eq_some.mp h
  obtain ⟨c, more, htext⟩ := List.exists_cons_of_ne_nil (taken?_eq_some htaken).1
  have hdrop : (more ++ rest).drop (token.text.length - 1) = rest := by simp [htext]
  rw [htext, List.cons_append] at h ⊢
  rw [tokensFrom, h]
  simp only [tokensFrom_skip (token.text.length - 1), hdrop]
  cases tokensFrom 0 token.after token.consumed rest <;> rfl

/-- One step of reading. -/
theorem tokensFrom_eq_cons {mode : Mode} {consumed text : List Char} {token : Token}
    {tokens : List Token} :
    tokensFrom 0 mode consumed text = .ok (token :: tokens) ↔
      ∃ rest, text = token.text ++ rest ∧ tokenAt? mode consumed text = some token ∧
        tokensFrom 0 token.after token.consumed rest = .ok tokens := by
  constructor
  · intro h
    cases text with
    | nil => simp [tokensFrom] at h
    | cons c more =>
      cases hfirst : tokenAt? mode consumed (c :: more) with
      | none => simp [tokensFrom, hfirst] at h
      | some first =>
        obtain ⟨-, -, -, htaken, -⟩ := tokenAt?_eq_some.mp hfirst
        obtain ⟨-, rest, hrest⟩ := taken?_eq_some htaken
        rw [hrest] at hfirst h ⊢
        rw [tokensFrom_of_tokenAt? hfirst] at h
        cases hmore : tokensFrom 0 first.after first.consumed rest with
        | error left => rw [hmore] at h; cases h
        | ok others =>
          rw [hmore] at h
          obtain ⟨rfl, rfl⟩ := List.cons.inj (Except.ok.inj h)
          exact ⟨rest, rfl, rfl, hmore⟩
  · rintro ⟨rest, rfl, hfirst, hrest⟩
    rw [tokensFrom_of_tokenAt? hfirst, hrest]
    rfl

end Reader

def spelled (tokens : List Token) : List Char :=
  tokens.flatMap Token.text

variable {mode : Mode} {consumed text left : List Char} {token : Token} {tokens : List Token}

/-- What the table says about a token at the start of a text. -/
structure ByRule (mode : Mode) (text : List Char) (token : Token) : Prop where
  starts : token.before = mode
  legal : token.kind.next? mode = some token.after
  taken : token.kind.taken? text = some token.text
  first : ∀ other ∈ token.kind.earlier, (other.next? mode).isSome → other.taken? text = none

def modeBehind (mode : Mode) (tokens : List Token) : Mode :=
  (tokens.getLast?.map Token.after).getD mode

/-- Tokens that follow the table from a mode on and leave the rest of a text; each records the text
up to its end. -/
structure Follows (mode : Mode) (consumed text : List Char) (tokens : List Token)
    (left : List Char) : Prop where
  lossless : text = spelled tokens ++ left
  recorded : ∀ before token after, tokens = before ++ token :: after →
    token.consumed = consumed ++ spelled (before ++ [token])
  byRule : ∀ before token after, tokens = before ++ token :: after →
    ByRule (modeBehind mode before) (token.text ++ (spelled after ++ left)) token

section Steps

theorem tokenAt?_eq_some_iff_byRule : tokenAt? mode consumed text = some token ↔
    token.consumed = consumed ++ token.text ∧ ByRule mode text token := by
  rw [tokenAt?_eq_some]
  constructor
  · rintro ⟨hstarts, hconsumed, hlegal, htaken, hfirst⟩
    exact ⟨hconsumed, hstarts, hlegal, htaken, hfirst⟩
  · rintro ⟨hconsumed, hstarts, hlegal, htaken, hfirst⟩
    exact ⟨hstarts, hconsumed, hlegal, htaken, hfirst⟩

theorem modeBehind_cons (mode : Mode) (token : Token) (tokens : List Token) :
    modeBehind mode (token :: tokens) = modeBehind token.after tokens := by
  cases hlast : tokens.getLast? <;> simp [modeBehind, List.getLast?_cons, hlast]

theorem modeBehind_concat (mode : Mode) (tokens : List Token) (token : Token) :
    modeBehind mode (tokens ++ [token]) = token.after := by
  simp [modeBehind]

theorem spelled_cons (token : Token) (tokens : List Token) :
    spelled (token :: tokens) = token.text ++ spelled tokens :=
  List.flatMap_cons

/-- The places in a row are its first one and those in what comes then. -/
theorem forall_split_cons_iff {P : List Token → Token → List Token → Prop} :
    (∀ before next after, token :: tokens = before ++ next :: after → P before next after) ↔
      P [] token tokens ∧
        ∀ before next after, tokens = before ++ next :: after → P (token :: before) next after := by
  constructor
  · intro h
    exact ⟨h [] token tokens rfl, fun before next after hsplit =>
      h (token :: before) next after (by rw [hsplit]; rfl)⟩
  · rintro ⟨hfirst, hrest⟩ before next after hsplit
    cases before with
    | nil =>
      obtain ⟨rfl, rfl⟩ := List.cons.inj hsplit
      exact hfirst
    | cons other before =>
      obtain ⟨rfl, hmore⟩ := List.cons.inj hsplit
      exact hrest before next after hmore

theorem follows_nil_iff : Follows mode consumed text [] left ↔ text = left := by
  constructor
  · intro h
    exact h.lossless
  · intro h
    have hnone (before : List Token) (token : Token) (after : List Token) :
        [] ≠ before ++ token :: after := by
      simp
    exact ⟨h, fun before token after hsplit => absurd hsplit (hnone before token after),
      fun before token after hsplit => absurd hsplit (hnone before token after)⟩

/-- One step along the table. -/
theorem follows_cons_iff : Follows mode consumed text (token :: tokens) left ↔
    ∃ rest, text = token.text ++ rest ∧ tokenAt? mode consumed text = some token ∧
      Follows token.after token.consumed rest tokens left := by
  have hspelled (before : List Token) (next : Token) :
      consumed ++ spelled (token :: before ++ [next]) =
        consumed ++ token.text ++ spelled (before ++ [next]) := by
    rw [List.cons_append, spelled_cons, List.append_assoc]
  -- The first place gives the token that is read, the places behind it the rest of the run.
  constructor
  · rintro ⟨htext, hrecorded, hbyRule⟩
    obtain ⟨hconsumed, hrecorded⟩ := forall_split_cons_iff.mp hrecorded
    obtain ⟨hrule, hbyRule⟩ := forall_split_cons_iff.mp hbyRule
    rw [spelled_cons, List.append_assoc] at htext
    have hwhole : token.consumed = consumed ++ token.text := by simpa [spelled] using hconsumed
    have hat : tokenAt? mode consumed text = some token :=
      tokenAt?_eq_some_iff_byRule.mpr ⟨hwhole, htext ▸ hrule⟩
    refine ⟨spelled tokens ++ left, htext, hat, rfl, ?_, ?_⟩
    · simpa only [hspelled, ← hwhole] using hrecorded
    · simpa only [modeBehind_cons] using hbyRule
  · rintro ⟨rest, rfl, hat, hlossless, hrecorded, hbyRule⟩
    obtain ⟨hwhole, hrule⟩ := tokenAt?_eq_some_iff_byRule.mp hat
    refine ⟨?_, forall_split_cons_iff.mpr ⟨?_, ?_⟩, forall_split_cons_iff.mpr ⟨?_, ?_⟩⟩
    · rw [spelled_cons, List.append_assoc, ← hlossless]
    · simpa [spelled] using hwhole
    · simpa only [hspelled, ← hwhole] using hrecorded
    · rw [← hlossless]
      exact hrule
    · simpa only [modeBehind_cons] using hbyRule

end Steps

section Runs

theorem tokensFrom_eq_ok_iff :
    tokensFrom 0 mode consumed text = .ok tokens ↔ Follows mode consumed text tokens [] := by
  induction tokens generalizing mode consumed text with
  | nil => rw [tokensFrom_eq_nil, follows_nil_iff]
  | cons token tokens ih =>
    rw [tokensFrom_eq_cons, follows_cons_iff]
    simp only [ih]

/-- Each token is the one that is read where it stands. -/
theorem Follows.tokenAt?_eq (h : Follows mode consumed text tokens left)
    {before after : List Token} (hsplit : tokens = before ++ token :: after) :
    tokenAt? token.before (consumed ++ spelled before)
      (token.text ++ (spelled after ++ left)) = some token := by
  have hrule := h.byRule before token after hsplit
  have hconsumed := h.recorded before token after hsplit
  rw [hrule.starts]
  refine tokenAt?_eq_some_iff_byRule.mpr ⟨?_, hrule⟩
  rw [hconsumed]
  simp [spelled]

theorem Follows.text_ne_nil (h : Follows mode consumed text tokens left) :
    ∀ token ∈ tokens, token.text ≠ [] := by
  intro token htoken
  obtain ⟨before, after, hsplit⟩ := List.append_of_mem htoken
  exact (taken?_eq_some (h.byRule before token after hsplit).taken).1

theorem Follows.length_le (h : Follows mode consumed text tokens left) :
    tokens.length + left.length ≤ text.length := by
  induction tokens generalizing mode consumed text with
  | nil =>
    obtain rfl := follows_nil_iff.mp h
    simp
  | cons token tokens ih =>
    have hpos := List.length_pos_iff.mpr (h.text_ne_nil token List.mem_cons_self)
    obtain ⟨rest, rfl, -, hrest⟩ := follows_cons_iff.mp h
    have hmore := ih hrest
    rw [List.length_cons, List.length_append]
    omega

end Runs

end NextWord.Filter
