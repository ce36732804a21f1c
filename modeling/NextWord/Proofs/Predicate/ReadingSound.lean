import NextWord.Proofs.Predicate.Grammar

/-!
# What the reader accepts is derivable

By induction on the fuel, every reader that succeeds has taken tokens off the front which derive
what it built. Readers that go on behind an operand are given the derivation of that operand. The
tokens are assumed to be proper, as scanned ones are: an operation is looked for by its text, and
only for proper tokens does the text tell a sign from a word.
-/

namespace NextWord.Predicate

def Proper (tokens : List Token) : Prop :=
  ∀ t ∈ tokens, t.isProper = true

theorem Proper.right {ts us : List Token} (h : Proper (ts ++ us)) : Proper us :=
  fun t ht => h t (List.mem_append_right ts ht)

theorem Proper.tail {t : Token} {ts : List Token} (h : Proper (t :: ts)) : Proper ts :=
  fun u hu => h u (List.mem_cons_of_mem t hu)

theorem after?_eq_some {text : String} {tokens rest : List Token}
    (h : after? text tokens = some rest) :
    ∃ kind o, tokens = ⟨kind, text, o⟩ :: rest ∧ (kind = .sign ∨ kind = .word) := by
  rw [after?.eq_def] at h
  split at h
  · next t o more =>
    split at h
    · next htext =>
      cases h
      exact ⟨.sign, o, by rw [htext], Or.inl rfl⟩
    · cases h
  · next t o more =>
    split at h
    · next htext =>
      cases h
      exact ⟨.word, o, by rw [htext], Or.inr rfl⟩
    · cases h
  · cases h

theorem after?_sign {text : String} {tokens rest : List Token} (hproper : Proper tokens)
    (htext : isWordText text = false) (h : after? text tokens = some rest) :
    ∃ o, tokens = ⟨.sign, text, o⟩ :: rest := by
  obtain ⟨kind, o, rfl, hkind⟩ := after?_eq_some h
  exact ⟨o, by rw [Token.kind_eq_sign (hproper _ List.mem_cons_self) hkind htext]⟩

theorem after?_word {text : String} {tokens rest : List Token} (hproper : Proper tokens)
    (htext : isSignText text = false) (h : after? text tokens = some rest) :
    ∃ o, tokens = ⟨.word, text, o⟩ :: rest := by
  obtain ⟨kind, o, rfl, hkind⟩ := after?_eq_some h
  exact ⟨o, by rw [Token.kind_eq_word (hproper _ List.mem_cons_self) hkind htext]⟩

theorem expect_eq_ok {sign : String} {tokens rest : List Token} (hproper : Proper tokens)
    (hsign : isWordText sign = false) (h : expect sign tokens = .ok rest) :
    ∃ o, tokens = ⟨.sign, sign, o⟩ :: rest := by
  rw [expect] at h
  split at h
  · next hafter =>
    cases h
    exact after?_sign hproper hsign hafter
  · cases h

/-- The single tokens that are looked for at a level, with what they write. -/
def choices : Level → List (String × BinaryOp)
  | .either => [("||", .or), ("or", .or)]
  | .both => [("&&", .and), ("and", .and)]
  | .equality => [("==", .equal), ("!=", .notEqual)]
  | .relation => [("<", .less), ("<=", .lessEqual), (">", .greater), (">=", .greaterEqual),
      ("in", .member)]
  | .sum => [("+", .add), ("-", .sub)]

theorem choices_spell (l : Level) : ∀ choice ∈ choices l, choice.2.level = l ∧
    ((isWordText choice.1 = false ∧ [(.sign, choice.1)] ∈ spellings choice.2) ∨
      (isSignText choice.1 = false ∧ [(.word, choice.1)] ∈ spellings choice.2)) := by
  cases l <;> decide

theorem exists_of_findSome?_after? {options : List (String × BinaryOp)}
    {tokens rest : List Token} {op : BinaryOp}
    (h : (options.findSome? fun (text, op) => (after? text tokens).map fun rest => (op, rest)) =
      some (op, rest)) : ∃ text, (text, op) ∈ options ∧ after? text tokens = some rest := by
  obtain ⟨⟨text, op'⟩, hmem, hfound⟩ := List.exists_of_findSome?_eq_some h
  obtain ⟨rest', hafter, heq⟩ := Option.map_eq_some_iff.mp hfound
  cases heq
  exact ⟨text, hmem, hafter⟩

theorem operator?_eq_some {l : Level} {op : BinaryOp} {tokens rest : List Token}
    (h : operator? l tokens = some (op, rest)) :
    (∃ text, (text, op) ∈ choices l ∧ after? text tokens = some rest) ∨
      (l = .relation ∧ op = .notMember ∧
        ∃ o p, tokens = ⟨.word, "not", o⟩ :: ⟨.word, "in", p⟩ :: rest) := by
  cases l with
  | relation =>
    simp only [operator?] at h
    split at h
    · next hfound =>
      cases h
      exact Or.inl (exists_of_findSome?_after? hfound)
    · split at h
      · cases h
        exact Or.inr ⟨rfl, rfl, _, _, rfl⟩
      · cases h
  | _ => exact Or.inl (exists_of_findSome?_after? h)

theorem operator?_sound {l : Level} {op : BinaryOp} {tokens rest : List Token}
    (hproper : Proper tokens) (h : operator? l tokens = some (op, rest)) :
    op.level = l ∧ ∃ os, Writes op os ∧ tokens = os ++ rest := by
  rcases operator?_eq_some h with ⟨text, hmem, hafter⟩ | ⟨rfl, rfl, o, p, rfl⟩
  · obtain ⟨hlevel, ⟨htext, hspelling⟩ | ⟨htext, hspelling⟩⟩ := choices_spell l _ hmem
    · obtain ⟨o, rfl⟩ := after?_sign hproper htext hafter
      exact ⟨hlevel, [⟨.sign, text, o⟩], hspelling, rfl⟩
    · obtain ⟨o, rfl⟩ := after?_word hproper htext hafter
      exact ⟨hlevel, [⟨.word, text, o⟩], hspelling, rfl⟩
  · exact ⟨rfl, [⟨.word, "not", o⟩, ⟨.word, "in", p⟩], by simp [Writes, spellings], rfl⟩

/-- What every reader takes with so much fuel derives what it builds. -/
structure ReadsSoundly (fuel : Nat) : Prop where
  level : ∀ l ts e rest, Proper ts → level fuel l ts = .ok (e, rest) →
    ∃ us, ts = us ++ rest ∧ Derives (.level l) us e
  operand : ∀ l ts e rest, Proper ts → operand fuel l ts = .ok (e, rest) →
    ∃ us, ts = us ++ rest ∧ Derives (.operandOf l) us e
  more : ∀ l us left ts e rest, Proper ts → Derives (.level l) us left →
    more fuel l left ts = .ok (e, rest) →
    ∃ vs, ts = vs ++ rest ∧ Derives (.level l) (us ++ vs) e
  prefixed : ∀ ts e rest, Proper ts → prefixed fuel ts = .ok (e, rest) →
    ∃ us, ts = us ++ rest ∧ Derives .unary us e
  accesses : ∀ us target ts e rest, Proper ts → Derives .chain us target →
    accesses fuel target ts = .ok (e, rest) →
    ∃ vs, ts = vs ++ rest ∧ Derives .chain (us ++ vs) e
  memberAccess : ∀ us target dot o ts e rest, Proper ts → Derives .chain us target →
    dot = "." ∨ dot = "?." → memberAccess fuel target dot ts = .ok (e, rest) →
    ∃ vs, ts = vs ++ rest ∧ Derives .chain (us ++ ⟨.sign, dot, o⟩ :: vs) e
  primary : ∀ ts e rest, Proper ts → (∀ more, after? "not" ts ≠ some more) →
    primary fuel ts = .ok (e, rest) → ∃ us, ts = us ++ rest ∧ Derives .primary us e
  elements : ∀ ts es rest, Proper ts → elements fuel ts = .ok (es, rest) →
    ∃ us, ts = us ++ rest ∧ Derives .elements us (.array es)

section Steps

variable {fuel : Nat} (ih : ReadsSoundly fuel)

include ih

theorem level_sound {l : Level} {ts rest : List Token} {e : Expr} (hproper : Proper ts)
    (h : level (fuel + 1) l ts = .ok (e, rest)) :
    ∃ us, ts = us ++ rest ∧ Derives (.level l) us e := by
  rw [level] at h
  split at h
  · cases h
  · next left behind hoperand =>
    obtain ⟨us, rfl, hus⟩ := ih.operand _ _ _ _ hproper hoperand
    obtain ⟨vs, rfl, hvs⟩ := ih.more _ _ _ _ _ _ hproper.right (.operand hus) h
    exact ⟨us ++ vs, (List.append_assoc us vs rest).symm, hvs⟩

theorem operand_sound {l : Level} {ts rest : List Token} {e : Expr} (hproper : Proper ts)
    (h : operand (fuel + 1) l ts = .ok (e, rest)) :
    ∃ us, ts = us ++ rest ∧ Derives (.operandOf l) us e := by
  rw [operand] at h
  cases htighter : l.tighter with
  | some m =>
    rw [htighter] at h
    have hoperand : Symbol.operandOf l = .level m := by rw [Symbol.operandOf, htighter]
    rw [hoperand]
    exact ih.level _ _ _ _ hproper h
  | none =>
    rw [htighter] at h
    have hoperand : Symbol.operandOf l = .unary := by rw [Symbol.operandOf, htighter]
    rw [hoperand]
    exact ih.prefixed _ _ _ hproper h

theorem more_sound {l : Level} {us ts rest : List Token} {left e : Expr} (hproper : Proper ts)
    (hleft : Derives (.level l) us left) (h : more (fuel + 1) l left ts = .ok (e, rest)) :
    ∃ vs, ts = vs ++ rest ∧ Derives (.level l) (us ++ vs) e := by
  rw [more] at h
  split at h
  · cases h
    exact ⟨[], rfl, by rwa [List.append_nil]⟩
  · next op behind hop =>
    obtain ⟨rfl, os, hos, rfl⟩ := operator?_sound hproper hop
    split at h
    · cases h
    · next right further hright =>
      obtain ⟨vs, rfl, hvs⟩ := ih.operand _ _ _ _ hproper.right hright
      obtain ⟨ws, rfl, hws⟩ := ih.more _ _ _ _ _ _ hproper.right.right
        (.operation hos hleft hvs) h
      exact ⟨os ++ vs ++ ws, by simp, by simpa using hws⟩

theorem prefixed_sound {ts rest : List Token} {e : Expr} (hproper : Proper ts)
    (h : prefixed (fuel + 1) ts = .ok (e, rest)) :
    ∃ us, ts = us ++ rest ∧ Derives .unary us e := by
  rw [prefixed] at h
  split at h
  · next behind hnot =>
    have hsign : ∃ t, WritesUnary .not t ∧ ts = t :: behind := by
      cases hmark : after? "!" ts with
      | some rest' =>
        rw [hmark] at hnot
        cases hnot
        obtain ⟨o, rfl⟩ := after?_sign hproper (by decide) hmark
        exact ⟨⟨.sign, "!", o⟩, by simp [WritesUnary, unarySpellings], rfl⟩
      | none =>
        rw [hmark] at hnot
        obtain ⟨o, rfl⟩ := after?_word hproper (by decide) hnot
        exact ⟨⟨.word, "not", o⟩, by simp [WritesUnary, unarySpellings], rfl⟩
    obtain ⟨t, ht, rfl⟩ := hsign
    split at h
    · cases h
    · next operand further hoperand =>
      cases h
      obtain ⟨us, rfl, hus⟩ := ih.prefixed _ _ _ hproper.tail hoperand
      exact ⟨t :: us, rfl, .prefixed ht hus⟩
  · next hnot =>
    -- What is no negation in words may still be one by sign; only then comes an operand.
    split at h
    · next behind hneg =>
      obtain ⟨o, rfl⟩ := after?_sign hproper (by decide) hneg
      split at h
      · cases h
      · next operand further hoperand =>
        cases h
        obtain ⟨us, rfl, hus⟩ := ih.prefixed _ _ _ hproper.tail hoperand
        exact ⟨⟨.sign, "-", o⟩ :: us, rfl, .prefixed (by simp [WritesUnary, unarySpellings]) hus⟩
    · split at h
      · cases h
      · next target further htarget =>
        have hword : ∀ more, after? "not" ts ≠ some more := by
          intro more hmore
          rw [hmore] at hnot
          cases hmark : after? "!" ts with
          | some rest' => rw [hmark] at hnot; cases hnot
          | none => rw [hmark] at hnot; cases hnot
        obtain ⟨us, rfl, hus⟩ := ih.primary _ _ _ hproper hword htarget
        obtain ⟨vs, rfl, hvs⟩ := ih.accesses _ _ _ _ _ hproper.right (.bare hus) h
        exact ⟨us ++ vs, (List.append_assoc us vs rest).symm, .accessed hvs⟩

theorem accesses_sound {us ts rest : List Token} {target e : Expr} (hproper : Proper ts)
    (htarget : Derives .chain us target) (h : accesses (fuel + 1) target ts = .ok (e, rest)) :
    ∃ vs, ts = vs ++ rest ∧ Derives .chain (us ++ vs) e := by
  rw [accesses] at h
  split at h
  · next behind _ hdot =>
    obtain ⟨o, rfl⟩ := after?_sign hproper (by decide) hdot
    obtain ⟨vs, rfl, hvs⟩ := ih.memberAccess _ _ _ o _ _ _ hproper.tail htarget (Or.inl rfl) h
    exact ⟨_, rfl, hvs⟩
  · next behind _ hdot =>
    obtain ⟨o, rfl⟩ := after?_sign hproper (by decide) hdot
    obtain ⟨vs, rfl, hvs⟩ := ih.memberAccess _ _ _ o _ _ _ hproper.tail htarget (Or.inr rfl) h
    exact ⟨_, rfl, hvs⟩
  · split at h
    · cases h
      exact ⟨[], rfl, by rwa [List.append_nil]⟩
    · next behind hopen =>
      obtain ⟨o, rfl⟩ := after?_sign hproper (by decide) hopen
      split at h
      · cases h
      · next place further hplace =>
        obtain ⟨vs, rfl, hvs⟩ := ih.level _ _ _ _ hproper.tail hplace
        split at h
        · cases h
        · next last hclose =>
          obtain ⟨p, rfl⟩ := expect_eq_ok hproper.tail.right (by decide) hclose
          obtain ⟨ws, rfl, hws⟩ := ih.accesses _ _ _ _ _ hproper.tail.right.tail
            (.index htarget hvs) h
          exact ⟨⟨.sign, "[", o⟩ :: vs ++ ⟨.sign, "]", p⟩ :: ws, by simp, by simpa using hws⟩

theorem memberAccess_sound {us ts rest : List Token} {target e : Expr} {dot : String} (o : Nat)
    (hproper : Proper ts) (htarget : Derives .chain us target) (hdot : dot = "." ∨ dot = "?.")
    (h : memberAccess (fuel + 1) target dot ts = .ok (e, rest)) :
    ∃ vs, ts = vs ++ rest ∧ Derives .chain (us ++ ⟨.sign, dot, o⟩ :: vs) e := by
  rw [memberAccess.eq_def] at h
  simp only at h
  split at h
  · next name p behind =>
    have hmember : Derives .chain (us ++ [⟨.sign, dot, o⟩, ⟨.word, name, p⟩])
        (.member target name (dot == "?.")) := by
      rcases hdot with rfl | rfl
      · exact .member htarget
      · exact .optionalMember htarget
    obtain ⟨vs, rfl, hvs⟩ := ih.accesses _ _ _ _ _ hproper.tail hmember h
    exact ⟨⟨.word, name, p⟩ :: vs, rfl, by simpa using hvs⟩
  · cases h

theorem primary_sound {ts rest : List Token} {e : Expr} (hproper : Proper ts)
    (hnot : ∀ more, after? "not" ts ≠ some more)
    (h : primary (fuel + 1) ts = .ok (e, rest)) :
    ∃ us, ts = us ++ rest ∧ Derives .primary us e := by
  rcases ts with _ | ⟨⟨kind, text, o⟩, ts⟩
  · cases h
  rw [primary] at h
  cases kind with
  | number => cases h; exact ⟨[_], rfl, .number⟩
  | string => cases h; exact ⟨[_], rfl, .string⟩
  | word =>
    cases h
    refine ⟨[_], rfl, .word ?_⟩
    rintro rfl
    exact hnot rest (by simp [after?])
  | sign =>
    simp only at h
    split at h
    · next htext =>
      subst htext
      split at h
      · cases h
      · next inner behind hinner =>
        obtain ⟨us, rfl, hus⟩ := ih.level _ _ _ _ hproper.tail hinner
        split at h
        · cases h
        · next last hclose =>
          cases h
          obtain ⟨p, rfl⟩ := expect_eq_ok hproper.tail.right (by decide) hclose
          exact ⟨⟨.sign, "(", o⟩ :: us ++ [⟨.sign, ")", p⟩], by simp, .group hus⟩
    · split at h
      · next htext =>
        subst htext
        split at h
        · next behind hclose =>
          cases h
          obtain ⟨p, rfl⟩ := after?_sign hproper.tail (by decide) hclose
          exact ⟨[⟨.sign, "[", o⟩, ⟨.sign, "]", p⟩], rfl, .emptyArray⟩
        · split at h
          · cases h
          · next items behind hitems =>
            obtain ⟨us, rfl, hus⟩ := ih.elements _ _ _ hproper.tail hitems
            split at h
            · cases h
            · next last hclose =>
              cases h
              obtain ⟨p, rfl⟩ := expect_eq_ok hproper.tail.right (by decide) hclose
              exact ⟨⟨.sign, "[", o⟩ :: us ++ [⟨.sign, "]", p⟩], by simp, .array hus⟩
      · cases h

theorem elements_sound {ts rest : List Token} {es : List Expr} (hproper : Proper ts)
    (h : elements (fuel + 1) ts = .ok (es, rest)) :
    ∃ us, ts = us ++ rest ∧ Derives .elements us (.array es) := by
  rw [elements] at h
  split at h
  · cases h
  · next e behind hfirst =>
    obtain ⟨us, rfl, hus⟩ := ih.level _ _ _ _ hproper hfirst
    split at h
    · cases h
      exact ⟨us, rfl, .last hus⟩
    · next further hcomma =>
      obtain ⟨o, rfl⟩ := after?_sign hproper.right (by decide) hcomma
      split at h
      · cases h
      · next items last hitems =>
        cases h
        obtain ⟨vs, rfl, hvs⟩ := ih.elements _ _ _ hproper.right.tail hitems
        exact ⟨us ++ ⟨.sign, ",", o⟩ :: vs, by simp, .more hus hvs⟩

end Steps

/-- Every reader takes tokens that derive what it builds, whatever fuel it has. -/
theorem readsSoundly (fuel : Nat) : ReadsSoundly fuel := by
  induction fuel with
  | zero =>
    -- Without fuel no reader succeeds.
    constructor
    all_goals intros
    all_goals simp_all [level, operand, more, prefixed, accesses, memberAccess, primary, elements]
  | succ fuel ih =>
    constructor
    · intro l ts e rest hproper h
      exact level_sound ih hproper h
    · intro l ts e rest hproper h
      exact operand_sound ih hproper h
    · intro l us left ts e rest hproper hleft h
      exact more_sound ih hproper hleft h
    · intro ts e rest hproper h
      exact prefixed_sound ih hproper h
    · intro us target ts e rest hproper htarget h
      exact accesses_sound ih hproper htarget h
    · intro us target dot o ts e rest hproper htarget hdot h
      exact memberAccess_sound ih o hproper htarget hdot h
    · intro ts e rest hproper hnot h
      exact primary_sound ih hproper hnot h
    · intro ts es rest hproper h
      exact elements_sound ih hproper h

end NextWord.Predicate
