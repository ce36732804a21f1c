import NextWord.Proofs.Regex.Steps
import NextWord.Proofs.Regex.TokenReaders

/-!
# A dollar behind an expression

What was read from a text before its end is read from the text with a dollar behind it too, and
where the text was read to its end the dollar is one more item. Only a comment to the end of a line
would swallow it, and such comments end with the parenthesis that allows them. So a valid expression
stays valid.

Not claimed is that it has the same items besides: alternatives have their common start taken out,
and the dollar joins the last alternative only.
-/

namespace NextWord.Regex

variable {options : RegexOptions} {g after : Groups} {before : List Piece}
  {text rest left : List Token} {larger fuel : Nat}

theorem afterLine_withDollar (h : afterLine rest ≠ []) :
    afterLine (withDollar rest) = withDollar (afterLine rest) := by
  fun_induction afterLine rest with
  | case1 => exact absurd rfl h
  | case2 rest => rfl
  | case3 token rest not_line ih =>
    rw [withDollar_cons, afterLine]
    · exact ih h
    · exact not_line

/-- What is read with some fuel, with a dollar behind the text and with more fuel. A sequence that
ends before the text does is the same; one that goes on to the end has the dollar besides. -/
structure Kept (fuel : Nat) : Prop where
  alternatives {options g text body after left larger}
    (h : alternatives fuel options g text = .ok (body, after, left)) (ends : left ≠ [])
    (more : fuel ≤ larger) :
    Regex.alternatives larger options g (withDollar text) = .ok (body, after, withDollar left)
  moreAlternatives {options g text bodies after left larger}
    (h : moreAlternatives fuel options g text = .ok (bodies, after, left)) (ends : left ≠ [])
    (more : fuel ≤ larger) :
    Regex.moreAlternatives larger options g (withDollar text) = .ok (bodies, after, withDollar left)
  items {options g before text body after left larger}
    (h : items fuel options g before text = .ok (body, after, left)) (ends : left ≠ [])
    (more : fuel ≤ larger) :
    Regex.items larger options g before (withDollar text) = .ok (body, after, withDollar left)
  parenthesis {options g opening piece after left larger}
    (h : parenthesis fuel options g opening = .ok (piece, after, left)) (more : fuel ≤ larger) :
    Regex.parenthesis larger options g opening.withDollar = .ok (piece, after, withDollar left)

theorem Step.withDollar {pieces : List Piece} (kept : Kept fuel)
    (step : Step fuel options g before text after pieces left)
    (ends : left ≠ [] ∨ options.verbose = false) (more : fuel ≤ larger) :
    Step larger options g before (withDollar text) after pieces (withDollar left) := by
  cases step with
  | escape h => exact .escape (keeps_escape _ _ _ _ _ _ h)
  | set h => exact .set (keeps_set _ _ _ _ h)
  | parenthesis opens h =>
    exact .parenthesis (opening?_withDollar opens) (kept.parenthesis h more)
  | alone h => exact .alone h
  | comment verbose =>
    have hline := ends.resolve_right (by simp [verbose])
    rw [← afterLine_withDollar hline]
    exact .comment verbose
  | @brace c rest mark h =>
    have hbrace : quantifier c (Regex.withDollar left) = .brace := by
      rw [quantifier_withDollar, h]
      rfl
    exact .brace mark hbrace
  | @repeated c least most piece others rest behind mark h front kind =>
    have hrounds : quantifier c (Regex.withDollar rest) =
        .rounds least most (Regex.withDollar behind) := by
      rw [quantifier_withDollar, h]
      rfl
    have hstep : Step larger options g before (.plain c :: Regex.withDollar rest) g _ _ :=
      .repeated mark hrounds front kind
    rwa [greed_withDollar] at hstep

theorem closing?_withDollar (h : closing? text = .ok left) :
    closing? (withDollar text) = .ok (withDollar left) := by
  unfold closing? at h
  split at h
  · obtain rfl := Except.ok.inj h
    rfl
  · cases h

theorem ne_nil_of_closing? (h : closing? text = .ok left) : text ≠ [] := by
  rintro rfl
  cases h

theorem alternatives_withDollar (kept : Kept fuel) {body : List Item}
    (h : alternatives (fuel + 1) options g text = .ok (body, after, left)) (ends : left ≠ [])
    (more : fuel ≤ larger) :
    alternatives (larger + 1) options g (withDollar text) = .ok (body, after, withDollar left) := by
  rw [alternatives] at h ⊢
  obtain ⟨⟨first, middle, rest⟩, hfirst, h⟩ := exists_of_except_bind h
  obtain ⟨⟨others, last, behind⟩, hothers, h⟩ := exists_of_except_bind h
  obtain ⟨rfl, rfl, rfl⟩ : _ ∧ _ ∧ _ := by simpa using Except.ok.inj h
  have hrest : rest ≠ [] := by
    rintro rfl
    exact ends (moreAlternatives_nil_left hothers).2
  rw [kept.items hfirst hrest more]
  change (moreAlternatives larger options middle (withDollar rest) >>= _) = _
  rw [kept.moreAlternatives hothers ends more]
  rfl

theorem moreAlternatives_withDollar (kept : Kept fuel) {bodies : List (List Item)}
    (h : moreAlternatives (fuel + 1) options g text = .ok (bodies, after, left)) (ends : left ≠ [])
    (more : fuel ≤ larger) :
    moreAlternatives (larger + 1) options g (withDollar text) =
      .ok (bodies, after, withDollar left) := by
  unfold moreAlternatives at h
  split at h
  · next rest =>
    obtain ⟨⟨next, middle, rest⟩, hnext, h⟩ := exists_of_except_bind h
    obtain ⟨⟨others, last, behind⟩, hothers, h⟩ := exists_of_except_bind h
    obtain ⟨rfl, rfl, rfl⟩ : _ ∧ _ ∧ _ := by simpa using Except.ok.inj h
    have hrest : rest ≠ [] := by
      rintro rfl
      exact ends (moreAlternatives_nil_left hothers).2
    rw [withDollar_cons, moreAlternatives, kept.items hnext hrest more]
    change (moreAlternatives larger options middle (withDollar rest) >>= _) = _
    rw [kept.moreAlternatives hothers ends more]
    rfl
  · next not_bar =>
    obtain ⟨rfl, rfl, rfl⟩ : _ ∧ _ ∧ _ := by simpa using Except.ok.inj h
    rw [moreAlternatives]
    · rfl
    · exact withDollar_ne_cons (by decide) not_bar

theorem items_withDollar (kept : Kept fuel) {body : List Item}
    (h : items (fuel + 1) options g before text = .ok (body, after, left)) (ends : left ≠ [])
    (more : fuel ≤ larger) :
    items (larger + 1) options g before (withDollar text) = .ok (body, after, withDollar left) := by
  rcases stops_or_exists_step h with ⟨stops, rfl, rfl, rfl⟩ | ⟨middle, pieces, rest, step, h⟩
  · rcases stops with rfl | ⟨rest, rfl | rfl⟩
    · exact absurd rfl ends
    · rw [withDollar_cons, items]
      rfl
    · rw [withDollar_cons, items]
      rfl
  · have hrest : rest ≠ [] := by
      rintro rfl
      exact ends (items_nil_left h)
    rw [(step.withDollar kept (.inl hrest) more).items_eq]
    exact kept.items h ends more

/-- A closing parenthesis, and what is made of the body in front of it. -/
theorem closed_withDollar {piece made : Option Piece}
    (h : (closing? rest >>= fun left => pure (made, g, left)) = .ok (piece, after, left)) :
    rest ≠ [] ∧ (closing? (withDollar rest) >>= fun left => pure (made, g, left)) =
      .ok (piece, after, withDollar left) := by
  obtain ⟨behind, hclose, h⟩ := exists_of_except_bind h
  obtain ⟨rfl, rfl, rfl⟩ : _ ∧ _ ∧ _ := by simpa using Except.ok.inj h
  rw [closing?_withDollar hclose]
  exact ⟨ne_nil_of_closing? hclose, rfl⟩

/-- Alternatives, and what is made of them by a reader that needs something behind them. -/
theorem bind_withDollar (kept : Kept fuel) (more : fuel ≤ larger) {piece : Option Piece}
    {next : List Item × Groups × List Token → Except Fault (Option Piece × Groups × List Token)}
    (goes_on : ∀ {body middle rest}, next (body, middle, rest) = .ok (piece, after, left) →
      rest ≠ [] ∧ next (body, middle, withDollar rest) = .ok (piece, after, withDollar left))
    (h : (alternatives fuel options g text >>= next) = .ok (piece, after, left)) :
    (alternatives larger options g (withDollar text) >>= next) =
      .ok (piece, after, withDollar left) := by
  obtain ⟨⟨body, middle, rest⟩, hbody, h⟩ := exists_of_except_bind h
  obtain ⟨ends, hnext⟩ := goes_on h
  rw [kept.alternatives hbody ends more]
  exact hnext

theorem parenthesis_withDollar (kept : Kept fuel) {opening : Opening} {piece : Option Piece}
    (h : parenthesis (fuel + 1) options g opening = .ok (piece, after, left))
    (more : fuel ≤ larger) :
    parenthesis (larger + 1) options g opening.withDollar = .ok (piece, after, withDollar left) := by
  cases opening with
  | comment rest =>
    obtain ⟨rfl, rfl, rfl⟩ : _ ∧ _ ∧ _ := by simpa [parenthesis] using Except.ok.inj h
    rfl
  | reference n rest =>
    rw [parenthesis] at h
    obtain ⟨found, hfound, h⟩ := exists_of_except_bind h
    obtain ⟨rfl, rfl, rfl⟩ : _ ∧ _ ∧ _ := by simpa using Except.ok.inj h
    rw [Opening.withDollar, parenthesis, hfound]
    rfl
  | group name rest =>
    rw [parenthesis] at h
    obtain ⟨started, hstarted, h⟩ := exists_of_except_bind h
    rw [Opening.withDollar, parenthesis, hstarted]
    exact bind_withDollar kept more closed_withDollar h
  | plain rest | withOptions _ rest | atomic rest | ahead _ rest | behind _ rest =>
    rw [parenthesis] at h
    rw [Opening.withDollar, parenthesis]
    exact bind_withDollar kept more closed_withDollar h
  | ifGroup n numbered rest =>
    rw [parenthesis] at h
    rw [Opening.withDollar, parenthesis]
    dsimp only at h ⊢
    generalize (if numbered then { g with mentioned := n :: g.mentioned } else g) = started at h ⊢
    split at h
    · cases h
    next mentions =>
    rw [if_neg mentions]
    obtain ⟨⟨yes, middle, rest⟩, hyes, h⟩ := exists_of_except_bind h
    dsimp only at h
    split at h
    · obtain ⟨⟨no, last, behind⟩, hno, h⟩ := exists_of_except_bind h
      obtain ⟨ends, hclosed⟩ := closed_withDollar h
      rw [kept.items hyes (List.cons_ne_nil _ _) more]
      change (items larger options middle [] (withDollar _) >>= _) = _
      rw [kept.items hno ends more]
      exact hclosed
    · next not_bar =>
      obtain ⟨ends, hclosed⟩ := closed_withDollar h
      rw [kept.items hyes ends more]
      dsimp only [bind, Except.bind]
      split
      · next hbar => exact absurd hbar (withDollar_ne_cons (by decide) not_bar _)
      · exact hclosed

/-- Readers keep what they read, by the fuel that they have. -/
theorem kept (fuel : Nat) : Kept fuel := by
  induction fuel with
  | zero => exact ⟨nofun, nofun, nofun, nofun⟩
  | succ fuel ih =>
    have larger_eq {larger : Nat} (more : fuel + 1 ≤ larger) :
        ∃ rest, larger = rest + 1 ∧ fuel ≤ rest :=
      ⟨larger - 1, by omega, by omega⟩
    constructor
    · intro options g text body after left larger h ends more
      obtain ⟨larger, rfl, hlarger⟩ := larger_eq more
      exact alternatives_withDollar ih h ends hlarger
    · intro options g text bodies after left larger h ends more
      obtain ⟨larger, rfl, hlarger⟩ := larger_eq more
      exact moreAlternatives_withDollar ih h ends hlarger
    · intro options g before text body after left larger h ends more
      obtain ⟨larger, rfl, hlarger⟩ := larger_eq more
      exact items_withDollar ih h ends hlarger
    · intro options g opening piece after left larger h more
      obtain ⟨larger, rfl, hlarger⟩ := larger_eq more
      exact parenthesis_withDollar ih h hlarger

/-- A sequence that goes on to the end of the text has the dollar as its last item. -/
theorem exists_items_withDollar {body : List Item} (plain : options.verbose = false)
    (h : items fuel options g before text = .ok (body, after, [])) (more : fuel < larger) :
    ∃ longer, items larger options g before (withDollar text) = .ok (longer, after, []) := by
  induction fuel generalizing larger g before text with
  | zero => cases h
  | succ fuel ih =>
    obtain ⟨larger, rfl⟩ := Nat.exists_eq_add_one_of_ne_zero (Nat.ne_of_gt (Nat.zero_lt_of_lt more))
    have more := Nat.lt_of_succ_lt_succ more
    rcases stops_or_exists_step h with ⟨-, -, rfl, rfl⟩ | ⟨middle, pieces, rest, step, h⟩
    · obtain ⟨larger, rfl⟩ := Nat.exists_eq_add_one_of_ne_zero (Nat.ne_of_gt (Nat.zero_lt_of_lt more))
      rw [withDollar_nil, items, items]
      exact ⟨_, rfl⟩
    · rw [(step.withDollar (kept fuel) (.inr plain) more.le).items_eq]
      exact ih h more

/-- Alternatives that go on to the end of the text have the dollar in the last one. -/
theorem exists_sequences_withDollar {first : List Item} {others : List (List Item)}
    {middle : Groups} (plain : options.verbose = false)
    (hfirst : items fuel options g [] text = .ok (first, middle, rest))
    (hothers : moreAlternatives fuel options middle rest = .ok (others, after, []))
    (more : fuel < larger) : ∃ start middle rest longer,
      items larger options g [] (withDollar text) = .ok (start, middle, rest) ∧
        moreAlternatives larger options middle rest = .ok (longer, after, []) := by
  induction fuel generalizing larger g text middle rest first others with
  | zero => cases hfirst
  | succ fuel ih =>
    obtain ⟨larger, rfl⟩ := Nat.exists_eq_add_one_of_ne_zero (Nat.ne_of_gt (Nat.zero_lt_of_lt more))
    by_cases hrest : rest = []
    · subst hrest
      obtain ⟨rfl, -⟩ := moreAlternatives_nil_left hothers
      obtain ⟨longer, hlonger⟩ := exists_items_withDollar plain hfirst more
      exact ⟨longer, after, [], [], hlonger, rfl⟩
    · refine ⟨first, middle, withDollar rest, ?_⟩
      rw [(kept (fuel + 1)).items hfirst hrest more.le]
      unfold moreAlternatives at hothers
      split at hothers
      · next behind =>
        obtain ⟨⟨next, last, further⟩, hnext, hothers⟩ := exists_of_except_bind hothers
        obtain ⟨⟨bodies, final, end_⟩, hbodies, hothers⟩ := exists_of_except_bind hothers
        obtain ⟨rfl, rfl, rfl⟩ : _ ∧ _ ∧ _ := by simpa using Except.ok.inj hothers
        obtain ⟨start, between, further, longer, hstart, hlonger⟩ :=
          ih hnext hbodies (Nat.lt_of_succ_lt_succ more)
        refine ⟨start :: longer, rfl, ?_⟩
        rw [withDollar_cons, moreAlternatives, hstart]
        change (moreAlternatives larger options between further >>= _) = _
        rw [hlonger]
        rfl
      · obtain ⟨-, -, rfl⟩ : _ ∧ _ ∧ _ := by simpa using Except.ok.inj hothers
        exact absurd rfl hrest

/-- A valid expression stays valid with a dollar behind it. -/
theorem exists_parse_concat_dollar {source : List Char} {e : Expression}
    (h : parse source = .ok e) : ∃ longer, parse (source ++ ['$']) = .ok longer := by
  rw [parse] at h
  split at h
  · cases h
  next tokens htokens =>
  split at h
  · cases h
  · next body g hbody =>
    split at h
    · next holds =>
      rw [alternatives] at hbody
      obtain ⟨⟨first, middle, rest⟩, hfirst, hbody⟩ := exists_of_except_bind hbody
      obtain ⟨⟨others, last, behind⟩, hothers, hbody⟩ := exists_of_except_bind hbody
      obtain ⟨-, rfl, rfl⟩ : _ ∧ _ ∧ _ := by simpa using Except.ok.inj hbody
      have more : 3 * tokens.length + 9 < 3 * (withDollar tokens).length + 9 := by
        rw [length_withDollar]
        omega
      obtain ⟨start, between, further, longer, hstart, hlonger⟩ :=
        exists_sequences_withDollar rfl hfirst hothers more
      rw [parse, tokens?_concat_dollar htokens]
      dsimp only
      have hlonger' : alternatives (3 * (withDollar tokens).length + 10) {} {} (withDollar tokens) =
          .ok (alternativeItems {} start longer, last, []) := by
        rw [alternatives, hstart]
        change (moreAlternatives _ {} between further >>= _) = _
        rw [hlonger]
        rfl
      rw [hlonger']
      exact ⟨_, if_pos holds⟩
    · cases h
  · cases h

end NextWord.Regex
