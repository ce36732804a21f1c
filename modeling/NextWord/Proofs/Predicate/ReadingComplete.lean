import NextWord.Proofs.Outcome
import NextWord.Proofs.Predicate.ReadingSound

/-!
# The reader accepts what is derivable

Readers are greedy: they go on as long as a token follows that could belong to what they read. So
a derivation is found again in front of any text that does not continue it. A level of infix
operations is read in a loop over its operands; the invariant of the loop is that a derivation of
the level leaves the reader where it is about to look for the next operation, with the derived
expression as its left operand and fuel spent for each operation so far.

Main statement: for a text that can be cut into tokens, the reader returns an expression exactly if
the tokens derive it, and no tokens derive two.
-/

namespace NextWord.Predicate

/-- Tokens that do not continue an operand with an access. -/
def StopsAccess (tokens : List Token) : Prop :=
  after? "." tokens = none ∧ after? "?." tokens = none ∧ after? "[" tokens = none

/-- Tokens that continue an expression neither with an access nor at a tighter level. -/
def StopsBelow (l : Level) (tokens : List Token) : Prop :=
  StopsAccess tokens ∧ ∀ m : Level, l.rank < m.rank → operator? m tokens = none

def Stops (l : Level) (tokens : List Token) : Prop :=
  StopsBelow l tokens ∧ operator? l tokens = none

theorem StopsBelow.tighter {l m : Level} {tokens : List Token} (h : StopsBelow l tokens)
    (hm : l.tighter = some m) : Stops m tokens := by
  have hrank := Level.rank_tighter hm
  refine ⟨⟨h.1, ?_⟩, h.2 m (by omega)⟩
  intro n hn
  exact h.2 n (by omega)

/-- Tokens with nothing in front of an operand to negate it. -/
def StartsOperand (tokens : List Token) : Prop :=
  after? "!" tokens = none ∧ after? "not" tokens = none ∧ after? "-" tokens = none

theorem after?_eq_none {text found : String} (h : found ≠ text) (kind : TokenKind) (o : Nat)
    (rest : List Token) : after? text (⟨kind, found, o⟩ :: rest) = none := by
  cases hafter : after? text (⟨kind, found, o⟩ :: rest) with
  | none => rfl
  | some behind =>
    obtain ⟨_, _, heq, -⟩ := after?_eq_some hafter
    cases heq
    exact absurd rfl h

theorem operator?_eq_none {l : Level} {found : String} (h : found ∉ (choices l).map Prod.fst)
    (hnot : found ≠ "not") (kind : TokenKind) (o : Nat) (rest : List Token) :
    operator? l (⟨kind, found, o⟩ :: rest) = none := by
  cases hop : operator? l (⟨kind, found, o⟩ :: rest) with
  | none => rfl
  | some result =>
    rcases operator?_eq_some hop with ⟨text, hmem, hafter⟩ | ⟨-, -, _, _, heq⟩
    · obtain ⟨_, _, heq, -⟩ := after?_eq_some hafter
      cases heq
      exact absurd (List.mem_map_of_mem hmem) h
    · cases heq
      exact absurd rfl hnot

theorem stopsAccess_cons {found : String} (h : found ∉ [".", "?.", "["]) (kind : TokenKind)
    (o : Nat) (rest : List Token) : StopsAccess (⟨kind, found, o⟩ :: rest) := by
  simp only [List.mem_cons, List.not_mem_nil, or_false, not_or] at h
  exact ⟨after?_eq_none h.1 kind o rest, after?_eq_none h.2.1 kind o rest,
    after?_eq_none h.2.2 kind o rest⟩

theorem spellings_choices (op : BinaryOp) : ∀ s ∈ spellings op,
    (∃ choice ∈ choices op.level, choice.2 = op ∧
      (s = [(.sign, choice.1)] ∨ s = [(.word, choice.1)])) ∨
    (op = .notMember ∧ s = [(.word, "not"), (.word, "in")]) := by
  cases op <;> decide

/-- The tokens of an infix operation: a single one, but for `not in`. -/
theorem writes_cases {op : BinaryOp} {os : List Token} (h : Writes op os) :
    (∃ text kind o, (text, op) ∈ choices op.level ∧ (kind = .sign ∨ kind = .word) ∧
      os = [⟨kind, text, o⟩]) ∨
    (op = .notMember ∧ ∃ o p, os = [⟨.word, "not", o⟩, ⟨.word, "in", p⟩]) := by
  rcases spellings_choices op _ h with ⟨⟨text, _⟩, hmem, rfl, hs⟩ | ⟨rfl, hs⟩
  · rcases hs with hs | hs
    · obtain ⟨⟨kind, text', o⟩, rfl, heq⟩ := List.map_eq_singleton_iff.mp hs
      cases heq
      exact Or.inl ⟨text, .sign, o, hmem, Or.inl rfl, rfl⟩
    · obtain ⟨⟨kind, text', o⟩, rfl, heq⟩ := List.map_eq_singleton_iff.mp hs
      cases heq
      exact Or.inl ⟨text, .word, o, hmem, Or.inr rfl, rfl⟩
  · obtain ⟨⟨kind, text, o⟩, more, rfl, heq, hmore⟩ := List.map_eq_cons_iff.mp hs
    obtain ⟨⟨kind', text', p⟩, rfl, heq'⟩ := List.map_eq_singleton_iff.mp hmore
    cases heq
    cases heq'
    exact Or.inr ⟨rfl, o, p, rfl⟩

theorem length_pos_of_writes {op : BinaryOp} {os : List Token} (h : Writes op os) :
    0 < os.length := by
  rcases writes_cases h with ⟨text, kind, o, -, -, rfl⟩ | ⟨-, o, p, rfl⟩
  · exact Nat.one_pos
  · exact Nat.two_pos

theorem operator?_choice {l : Level} {text : String} {op : BinaryOp} (h : (text, op) ∈ choices l)
    {kind : TokenKind} (hkind : kind = .sign ∨ kind = .word) (o : Nat) (rest : List Token) :
    operator? l (⟨kind, text, o⟩ :: rest) = some (op, rest) := by
  cases l <;> simp only [choices, List.mem_cons, Prod.mk.injEq, List.not_mem_nil, or_false] at h
  case relation =>
    rcases h with ⟨rfl, rfl⟩ | ⟨rfl, rfl⟩ | ⟨rfl, rfl⟩ | ⟨rfl, rfl⟩ | ⟨rfl, rfl⟩
    all_goals rcases hkind with rfl | rfl <;> rfl
  all_goals
    rcases h with ⟨rfl, rfl⟩ | ⟨rfl, rfl⟩ <;> rcases hkind with rfl | rfl <;> rfl

/-- The tokens of an infix operation are read as that operation. -/
theorem operator?_writes {op : BinaryOp} {os : List Token} (h : Writes op os)
    (rest : List Token) : operator? op.level (os ++ rest) = some (op, rest) := by
  rcases writes_cases h with ⟨text, kind, o, hmem, hkind, rfl⟩ | ⟨rfl, o, p, rfl⟩
  · exact operator?_choice hmem hkind o rest
  · rfl

theorem choices_apart (l m : Level) : ∀ choice ∈ choices l,
    choice.1 ∉ [".", "?.", "["] ∧ choice.1 ≠ "not" ∧
      (l.rank < m.rank → choice.1 ∉ (choices m).map Prod.fst) := by
  cases l <;> cases m <;> decide

/-- The tokens of an infix operation end an operand of its level. -/
theorem stopsBelow_writes {op : BinaryOp} {os : List Token} (h : Writes op os)
    (rest : List Token) : StopsBelow op.level (os ++ rest) := by
  rcases writes_cases h with ⟨text, kind, o, hmem, -, rfl⟩ | ⟨rfl, o, p, rfl⟩
  · refine ⟨stopsAccess_cons (choices_apart _ .either _ hmem).1 kind o rest, ?_⟩
    intro m hm
    obtain ⟨-, hnot, hapart⟩ := choices_apart _ m _ hmem
    exact operator?_eq_none (hapart hm) hnot kind o rest
  · refine ⟨stopsAccess_cons (by decide) .word o _, ?_⟩
    intro m hm
    cases m with
    | sum => rfl
    | _ => exact absurd hm (by decide)

theorem stops_nil (l : Level) : Stops l [] := by
  refine ⟨⟨⟨rfl, rfl, rfl⟩, ?_⟩, ?_⟩
  · intro m _
    cases m <;> rfl
  · cases l <;> rfl

def closers : List String := [")", "]", ","]

theorem closers_apart (l : Level) : ∀ text ∈ closers,
    text ∉ [".", "?.", "["] ∧ text ≠ "not" ∧ text ∉ (choices l).map Prod.fst := by
  cases l <;> decide

/-- A closing sign or a comma ends an expression. -/
theorem stops_closer {text : String} (h : text ∈ closers) (o : Nat) (rest : List Token) :
    Stops .either (⟨.sign, text, o⟩ :: rest) := by
  have hlevel : ∀ m : Level, operator? m (⟨.sign, text, o⟩ :: rest) = none := by
    intro m
    obtain ⟨-, hnot, hapart⟩ := closers_apart m text h
    exact operator?_eq_none hapart hnot .sign o rest
  exact ⟨⟨stopsAccess_cons (closers_apart .either text h).1 .sign o rest, fun m _ => hlevel m⟩,
    hlevel .either⟩

def levelFuel (l : Level) : Nat :=
  12 - 2 * l.rank

theorem levelFuel_tighter {l m : Level} (h : l.tighter = some m) :
    levelFuel l = levelFuel m + 2 := by
  cases l <;> cases h <;> rfl

theorem four_le_levelFuel (l : Level) : 4 ≤ levelFuel l := by
  cases l <;> decide

/-- How the reader of a symbol finds a derivation again in front of tokens that do not continue
it. Loops are described by where they arrive, with the fuel that the rounds so far have taken. -/
def IsRead : Symbol → List Token → Expr → Prop
  | .level l, us, e => ∃ rounds ≤ us.length, ∀ rest fuel, StopsBelow l rest →
      16 * us.length + levelFuel l ≤ fuel →
      level fuel l (us ++ rest) = more (fuel - 1 - rounds) l e rest
  | .unary, us, e => ∀ rest fuel, StopsAccess rest → 16 * us.length + 2 ≤ fuel →
      prefixed fuel (us ++ rest) = .ok (e, rest)
  | .chain, us, e => (∀ rest, StartsOperand (us ++ rest)) ∧
      ∃ rounds ≤ us.length, ∀ rest fuel, 16 * us.length + 1 ≤ fuel →
        ∃ target behind, primary fuel (us ++ rest) = .ok (target, behind) ∧
          accesses fuel target behind = accesses (fuel - rounds) e rest
  | .primary, us, e => (∀ rest, StartsOperand (us ++ rest)) ∧
      ∀ rest fuel, 16 * us.length + 1 ≤ fuel → primary fuel (us ++ rest) = .ok (e, rest)
  | .elements, us, e => ∃ es, e = .array es ∧ ∀ p rest fuel,
      16 * us.length + 13 ≤ fuel →
      elements fuel (us ++ ⟨.sign, "]", p⟩ :: rest) = .ok (es, ⟨.sign, "]", p⟩ :: rest)

theorem IsRead.level_eq_ok {l : Level} {us : List Token} {e : Expr} (h : IsRead (.level l) us e)
    {rest : List Token} {fuel : Nat} (hstops : Stops l rest)
    (hfuel : 16 * us.length + levelFuel l ≤ fuel) :
    level fuel l (us ++ rest) = .ok (e, rest) := by
  obtain ⟨rounds, hrounds, hread⟩ := h
  have hlevel := four_le_levelFuel l
  obtain ⟨left, hleft⟩ : ∃ left, fuel - 1 - rounds = left + 1 :=
    ⟨fuel - 2 - rounds, by omega⟩
  rw [hread rest fuel hstops.1 hfuel, hleft, more, hstops.2]

/-- Inside brackets an expression is read up to the sign behind it. -/
theorem IsRead.enclosed_eq_ok {us : List Token} {e : Expr} (h : IsRead (.level .either) us e)
    {text : String} (htext : text ∈ closers) (o : Nat) (rest : List Token) {fuel : Nat}
    (hfuel : 16 * us.length + 12 ≤ fuel) :
    level fuel .either (us ++ ⟨.sign, text, o⟩ :: rest) = .ok (e, ⟨.sign, text, o⟩ :: rest) :=
  h.level_eq_ok (stops_closer htext o rest) hfuel

theorem IsRead.operand_eq_ok {l : Level} {us : List Token} {e : Expr}
    (h : IsRead (.operandOf l) us e) {rest : List Token} {fuel : Nat} (hstops : StopsBelow l rest)
    (hfuel : 16 * us.length + levelFuel l ≤ fuel + 1) :
    operand fuel l (us ++ rest) = .ok (e, rest) := by
  have hlevel := four_le_levelFuel l
  obtain ⟨left, rfl⟩ : ∃ left, fuel = left + 1 := ⟨fuel - 1, by omega⟩
  rw [operand]
  cases hl : l.tighter with
  | none =>
    rw [Symbol.operandOf, hl] at h
    exact h rest left hstops.1 (by omega)
  | some m =>
    rw [Symbol.operandOf, hl] at h
    have hm := levelFuel_tighter hl
    exact h.level_eq_ok (hstops.tighter hl) (by omega)

theorem after?_self (text : String) (o : Nat) (rest : List Token) :
    after? text (⟨.sign, text, o⟩ :: rest) = some rest := by
  simp [after?]

theorem expect_self (text : String) (o : Nat) (rest : List Token) :
    expect text (⟨.sign, text, o⟩ :: rest) = .ok rest := by
  rw [expect, after?_self]

theorem level_of_operand {l : Level} {us : List Token} {e : Expr}
    (h : IsRead (.operandOf l) us e) : IsRead (.level l) us e := by
  refine ⟨0, Nat.zero_le _, ?_⟩
  intro rest fuel hstops hfuel
  have hlevel := four_le_levelFuel l
  obtain ⟨left, rfl⟩ : ∃ left, fuel = left + 1 := ⟨fuel - 1, by omega⟩
  rw [level, h.operand_eq_ok hstops (by omega)]
  rfl

/-- One round of the loop over the operands of a level. -/
theorem level_of_operation {op : BinaryOp} {ts os us : List Token} {left right : Expr}
    (hop : Writes op os) (hleft : IsRead (.level op.level) ts left)
    (hright : IsRead (.operandOf op.level) us right) :
    IsRead (.level op.level) (ts ++ (os ++ us)) (.binary op left right) := by
  obtain ⟨rounds, hrounds, hread⟩ := hleft
  have hlevel := four_le_levelFuel op.level
  have hos := length_pos_of_writes hop
  refine ⟨rounds + 1, by simp only [List.length_append]; omega, ?_⟩
  intro rest fuel hstops hfuel
  simp only [List.length_append] at hfuel
  -- The operation ends its left operand, so the loop is left at it with some fuel for one round.
  obtain ⟨fuel', hfuel'⟩ : ∃ fuel', fuel - 1 - rounds = fuel' + 1 :=
    ⟨fuel - 2 - rounds, by omega⟩
  have hleft := hread (os ++ (us ++ rest)) fuel (stopsBelow_writes hop _) (by omega)
  rw [List.append_assoc, List.append_assoc, hleft, hfuel', more, operator?_writes hop]
  simp only
  rw [hright.operand_eq_ok hstops (by omega), show fuel - 1 - (rounds + 1) = fuel' by omega]

theorem unary_of_prefixed {op : UnaryOp} {t : Token} {ts : List Token} {e : Expr}
    (hop : WritesUnary op t) (h : IsRead .unary ts e) :
    IsRead .unary (t :: ts) (.unary op e) := by
  intro rest fuel hstops hfuel
  rw [List.length_cons] at hfuel
  obtain ⟨left, rfl⟩ : ∃ left, fuel = left + 1 := ⟨fuel - 1, by omega⟩
  have hoperand := h rest left hstops (by omega)
  obtain ⟨kind, text, o⟩ := t
  rw [List.cons_append, prefixed]
  cases op with
  | not =>
    simp only [WritesUnary, unarySpellings, List.mem_cons, Prod.mk.injEq, List.not_mem_nil,
      or_false] at hop
    rcases hop with ⟨rfl, rfl⟩ | ⟨rfl, rfl⟩
    · simp [after?, hoperand]
    · simp [after?, hoperand]
  | neg =>
    simp only [WritesUnary, unarySpellings, List.mem_singleton, Prod.mk.injEq] at hop
    obtain ⟨rfl, rfl⟩ := hop
    simp [after?, hoperand]

theorem unary_of_chain {ts : List Token} {e : Expr} (h : IsRead .chain ts e) :
    IsRead .unary ts e := by
  obtain ⟨hstarts, rounds, hrounds, hread⟩ := h
  intro rest fuel hstops hfuel
  obtain ⟨left, rfl⟩ : ∃ left, fuel = left + 1 := ⟨fuel - 1, by omega⟩
  obtain ⟨target, behind, hprimary, haccesses⟩ := hread rest left (by omega)
  obtain ⟨left', hleft'⟩ : ∃ left', left - rounds = left' + 1 := ⟨left - rounds - 1, by omega⟩
  obtain ⟨hmark, hnot, hneg⟩ := hstarts rest
  obtain ⟨hdot, hoptional, hopen⟩ := hstops
  rw [prefixed, hmark, hnot, hneg]
  simp only [Option.orElse_none, hprimary, haccesses, hleft']
  rw [accesses, hdot, hoptional, hopen]

theorem chain_of_primary {ts : List Token} {e : Expr} (h : IsRead .primary ts e) :
    IsRead .chain ts e := by
  refine ⟨h.1, 0, Nat.zero_le _, ?_⟩
  intro rest fuel hfuel
  exact ⟨e, rest, h.2 rest fuel hfuel, rfl⟩

theorem chain_of_member {ts : List Token} {target : Expr} {dot name : String} {o p : Nat}
    (hdot : dot = "." ∨ dot = "?.") (h : IsRead .chain ts target) :
    IsRead .chain (ts ++ [⟨.sign, dot, o⟩, ⟨.word, name, p⟩])
      (.member target name (dot == "?.")) := by
  obtain ⟨hstarts, rounds, hrounds, hread⟩ := h
  refine ⟨fun rest => by rw [List.append_assoc]; exact hstarts _, rounds + 2,
    by simpa using hrounds, ?_⟩
  intro rest fuel hfuel
  simp only [List.length_append, List.length_cons, List.length_nil] at hfuel
  obtain ⟨first, behind, hprimary, haccesses⟩ :=
    hread (⟨.sign, dot, o⟩ :: ⟨.word, name, p⟩ :: rest) fuel (by omega)
  obtain ⟨left, hleft⟩ : ∃ left, fuel - rounds = left + 2 := ⟨fuel - rounds - 2, by omega⟩
  refine ⟨first, behind, by simpa using hprimary, ?_⟩
  rw [haccesses, hleft, show fuel - (rounds + 2) = left by omega, accesses]
  rcases hdot with rfl | rfl
  · simp [after?, memberAccess]
  · simp [after?, memberAccess]

theorem chain_of_index {ts us : List Token} {target place : Expr} {o p : Nat}
    (h : IsRead .chain ts target) (hplace : IsRead (.level .either) us place) :
    IsRead .chain (ts ++ (⟨.sign, "[", o⟩ :: us ++ [⟨.sign, "]", p⟩]))
      (.index target place false) := by
  obtain ⟨hstarts, rounds, hrounds, hread⟩ := h
  refine ⟨fun rest => by rw [List.append_assoc]; exact hstarts _, rounds + 1,
    by simp only [List.length_append, List.length_cons]; omega, ?_⟩
  intro rest fuel hfuel
  simp only [List.length_append, List.length_cons, List.length_nil] at hfuel
  obtain ⟨first, behind, hprimary, haccesses⟩ :=
    hread (⟨.sign, "[", o⟩ :: (us ++ ⟨.sign, "]", p⟩ :: rest)) fuel (by omega)
  obtain ⟨left, hleft⟩ : ∃ left, fuel - rounds = left + 1 := ⟨fuel - rounds - 1, by omega⟩
  have hinner : level left .either (us ++ ⟨.sign, "]", p⟩ :: rest) =
      .ok (place, ⟨.sign, "]", p⟩ :: rest) :=
    hplace.enclosed_eq_ok (by decide) p rest (by omega)
  refine ⟨first, behind, by simpa using hprimary, ?_⟩
  rw [haccesses, hleft, show fuel - (rounds + 1) = left by omega, accesses,
    after?_eq_none (by decide), after?_eq_none (by decide), after?_self]
  simp only [hinner, expect_self]

theorem startsOperand_cons {kind : TokenKind} {found : String} {o : Nat}
    (h : found ∉ ["!", "not", "-"]) (rest : List Token) :
    StartsOperand (⟨kind, found, o⟩ :: rest) := by
  simp only [List.mem_cons, List.not_mem_nil, or_false, not_or] at h
  exact ⟨after?_eq_none h.1 kind o rest, after?_eq_none h.2.1 kind o rest,
    after?_eq_none h.2.2 kind o rest⟩

theorem primary_of_number (text : String) (o : Nat) :
    IsRead .primary [⟨.number, text, o⟩] (.literal (numberValue text.toList)) := by
  refine ⟨fun rest => ⟨rfl, rfl, rfl⟩, ?_⟩
  intro rest fuel hfuel
  obtain ⟨left, rfl⟩ : ∃ left, fuel = left + 1 := ⟨fuel - 1, by omega⟩
  rfl

theorem primary_of_string (text : String) (o : Nat) :
    IsRead .primary [⟨.string, text, o⟩] (.literal (stringValue text.toList)) := by
  refine ⟨fun rest => ⟨rfl, rfl, rfl⟩, ?_⟩
  intro rest fuel hfuel
  obtain ⟨left, rfl⟩ : ∃ left, fuel = left + 1 := ⟨fuel - 1, by omega⟩
  rfl

/-- A word other than `not` starts an operand; no word is written like the marks that negate. -/
theorem primary_of_word {text : String} {o : Nat} (hword : isWordText text = true)
    (hnot : text ≠ "not") : IsRead .primary [⟨.word, text, o⟩] (wordOperand text) := by
  refine ⟨fun rest => startsOperand_cons ?_ rest, ?_⟩
  · simp only [List.mem_cons, List.not_mem_nil, or_false, not_or]
    refine ⟨?_, hnot, ?_⟩
    · rintro rfl
      exact absurd hword (by decide)
    · rintro rfl
      exact absurd hword (by decide)
  · intro rest fuel hfuel
    obtain ⟨left, rfl⟩ : ∃ left, fuel = left + 1 := ⟨fuel - 1, by omega⟩
    rfl

theorem primary_of_group {ts : List Token} {e : Expr} {o p : Nat}
    (h : IsRead (.level .either) ts e) :
    IsRead .primary (⟨.sign, "(", o⟩ :: ts ++ [⟨.sign, ")", p⟩]) e := by
  refine ⟨fun rest => startsOperand_cons (by decide) _, ?_⟩
  intro rest fuel hfuel
  simp only [List.length_append, List.length_cons, List.length_nil] at hfuel
  obtain ⟨left, rfl⟩ : ∃ left, fuel = left + 1 := ⟨fuel - 1, by omega⟩
  have hinner : level left .either (ts ++ ⟨.sign, ")", p⟩ :: rest) =
      .ok (e, ⟨.sign, ")", p⟩ :: rest) :=
    h.enclosed_eq_ok (by decide) p rest (by omega)
  simp [primary, hinner, expect_self]

theorem primary_of_emptyArray (o p : Nat) :
    IsRead .primary [⟨.sign, "[", o⟩, ⟨.sign, "]", p⟩] (.array []) := by
  refine ⟨fun rest => startsOperand_cons (by decide) _, ?_⟩
  intro rest fuel hfuel
  obtain ⟨left, rfl⟩ : ∃ left, fuel = left + 1 := ⟨fuel - 1, by omega⟩
  simp [primary, after?_self]

theorem primary_of_elements {ts : List Token} {e : Expr} {o p : Nat}
    (hopen : ∀ rest, after? "]" (ts ++ rest) = none) (h : IsRead .elements ts e) :
    IsRead .primary (⟨.sign, "[", o⟩ :: ts ++ [⟨.sign, "]", p⟩]) e := by
  obtain ⟨es, rfl, hread⟩ := h
  refine ⟨fun rest => startsOperand_cons (by decide) _, ?_⟩
  intro rest fuel hfuel
  simp only [List.length_append, List.length_cons, List.length_nil] at hfuel
  obtain ⟨left, rfl⟩ : ∃ left, fuel = left + 1 := ⟨fuel - 1, by omega⟩
  simp [primary, hopen, hread p rest left (by omega), expect_self]

theorem elements_of_last {ts : List Token} {e : Expr} (h : IsRead (.level .either) ts e) :
    IsRead .elements ts (.array [e]) := by
  refine ⟨[e], rfl, ?_⟩
  intro p rest fuel hfuel
  obtain ⟨left, rfl⟩ : ∃ left, fuel = left + 1 := ⟨fuel - 1, by omega⟩
  have hfirst : level left .either (ts ++ ⟨.sign, "]", p⟩ :: rest) =
      .ok (e, ⟨.sign, "]", p⟩ :: rest) :=
    h.enclosed_eq_ok (by decide) p rest (by omega)
  rw [elements, hfirst]
  simp only [after?_eq_none (show "]" ≠ "," by decide)]

theorem elements_of_more {ts us : List Token} {e : Expr} {es : List Expr} {o : Nat}
    (h : IsRead (.level .either) ts e) (hmore : IsRead .elements us (.array es)) :
    IsRead .elements (ts ++ ⟨.sign, ",", o⟩ :: us) (.array (e :: es)) := by
  obtain ⟨es', hes, hread⟩ := hmore
  cases hes
  refine ⟨e :: es, rfl, ?_⟩
  intro p rest fuel hfuel
  simp only [List.length_append, List.length_cons] at hfuel
  obtain ⟨left, rfl⟩ : ∃ left, fuel = left + 1 := ⟨fuel - 1, by omega⟩
  have hfirst : level left .either (ts ++ ⟨.sign, ",", o⟩ :: (us ++ ⟨.sign, "]", p⟩ :: rest)) =
      .ok (e, ⟨.sign, ",", o⟩ :: (us ++ ⟨.sign, "]", p⟩ :: rest)) :=
    h.enclosed_eq_ok (by decide) o _ (by omega)
  rw [List.append_assoc, List.cons_append, elements, hfirst]
  simp only [after?_self, hread p rest left (by omega)]

theorem Proper.left {ts us : List Token} (h : Proper (ts ++ us)) : Proper ts :=
  fun t ht => h t (List.mem_append_left us ht)

theorem WritesUnary.text_ne {op : UnaryOp} {t : Token} (h : WritesUnary op t) : t.text ≠ "]" := by
  have hspell : ∀ spelling ∈ unarySpellings op, spelling.2 ≠ "]" := by
    cases op <;> decide
  exact hspell _ h

/-- Nothing that can be derived starts with a closing bracket. -/
theorem Derives.after?_close {s : Symbol} {ts : List Token} {e : Expr} (h : Derives s ts e)
    (hproper : Proper ts) (rest : List Token) : after? "]" (ts ++ rest) = none := by
  induction h generalizing rest with
  | operand _ ih => exact ih hproper rest
  | operation _ _ _ ih _ => rw [List.append_assoc]; exact ih hproper.left _
  | prefixed hop _ _ => exact after?_eq_none hop.text_ne _ _ _
  | accessed _ ih => exact ih hproper rest
  | bare _ ih => exact ih hproper rest
  | member _ ih => rw [List.append_assoc]; exact ih hproper.left _
  | optionalMember _ ih => rw [List.append_assoc]; exact ih hproper.left _
  | index _ _ ih _ => rw [List.append_assoc]; exact ih hproper.left _
  | number => rfl
  | string => rfl
  | word _ =>
    have hword := hproper _ List.mem_cons_self
    refine after?_eq_none ?_ _ _ _
    rintro rfl
    exact absurd hword (by simp [Token.isProper, isWordText]; decide)
  | group _ _ => exact after?_eq_none (by decide) _ _ _
  | emptyArray => exact after?_eq_none (by decide) _ _ _
  | array _ _ => exact after?_eq_none (by decide) _ _ _
  | last _ ih => exact ih hproper rest
  | more _ _ ih _ => rw [List.append_assoc]; exact ih hproper.left _

/-- Every derivation is found again by the reader of its symbol. -/
theorem isRead_of_derives {s : Symbol} {ts : List Token} {e : Expr} (h : Derives s ts e)
    (hproper : Proper ts) : IsRead s ts e := by
  induction h with
  | operand _ ih => exact level_of_operand (ih hproper)
  | operation hop _ _ ihl ihr =>
    exact level_of_operation hop (ihl hproper.left) (ihr hproper.right.right)
  | prefixed hop _ ih => exact unary_of_prefixed hop (ih hproper.tail)
  | accessed _ ih => exact unary_of_chain (ih hproper)
  | bare _ ih => exact chain_of_primary (ih hproper)
  | member _ ih => exact chain_of_member (Or.inl rfl) (ih hproper.left)
  | optionalMember _ ih => exact chain_of_member (Or.inr rfl) (ih hproper.left)
  | index _ _ iht ihp => exact chain_of_index (iht hproper.left) (ihp hproper.right.tail.left)
  | number => exact primary_of_number _ _
  | string => exact primary_of_string _ _
  | word hnot => exact primary_of_word (hproper _ List.mem_cons_self) hnot
  | group _ ih => exact primary_of_group (ih hproper.tail.left)
  | emptyArray => exact primary_of_emptyArray _ _
  | array h ih =>
    exact primary_of_elements (fun rest => h.after?_close hproper.tail.left rest)
      (ih hproper.tail.left)
  | last _ ih => exact elements_of_last (ih hproper)
  | more _ _ ih ihs => exact elements_of_more (ih hproper.left) (ihs hproper.right.tail)

theorem parseTokens_of_derives {tokens : List Token} (hproper : Proper tokens) {e : Expr}
    (h : Derives (.level .either) tokens e) : parseTokens tokens = .ok e := by
  have hread := (isRead_of_derives h hproper).level_eq_ok (stops_nil .either)
    (show 16 * tokens.length + levelFuel .either ≤ depthBound tokens by
      simp only [levelFuel, Level.rank, depthBound]; omega)
  rw [List.append_nil] at hread
  cases tokens with
  | nil =>
    -- No derivation is empty, but it is shorter to see the reader refuse an empty text.
    have hnothing : level (depthBound []) .either [] = .error .unexpectedEnd := rfl
    rw [hnothing] at hread
    cases hread
  | cons t ts =>
    rw [parseTokens, hread]
    simp

theorem derives_of_parseTokens {tokens : List Token} (hproper : Proper tokens) {e : Expr}
    (h : parseTokens tokens = .ok e) : Derives (.level .either) tokens e := by
  rw [parseTokens.eq_def] at h
  split at h
  · cases h
  · split at h
    · cases h
    · next hlevel =>
      cases h
      obtain ⟨us, rfl, hus⟩ := (readsSoundly _).level _ _ _ _ hproper hlevel
      rwa [List.append_nil]
    · cases h

/-- A text is read as the expressions that its tokens derive. -/
theorem parse_eq_ok_iff {source : String} {tokens : List Token}
    (h : scan source.toList = .ok tokens) {e : Expr} :
    parse source = .ok e ↔ Derives (.level .either) tokens e := by
  have hproper : Proper tokens := scan_isProper h
  rw [parse, h]
  exact ⟨derives_of_parseTokens hproper, parseTokens_of_derives hproper⟩

end NextWord.Predicate
