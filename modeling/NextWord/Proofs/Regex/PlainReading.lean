import NextWord.Proofs.Pattern.Delimited
import NextWord.Proofs.Pattern.Segments

/-!
# Reading plain expressions

The source of a delimited pattern is an expression of the plainest kind: anchors, single characters,
and classes repeated once or more, in a group or not. Reading it yields one item for each part. What
reading does with a source is told for the tokens of one part at a time, behind whatever was read
before, and put together from there.
-/

namespace NextWord.Regex

open Pattern (Span Part belongs WritesChar WritesMembers WritesClass)

section Tokens

theorem tokens?_cons {c : Char} {rest : List Char} (h : c ≠ '\\') :
    tokens? (c :: rest) = (tokens? rest).map (Token.plain c :: ·) := by
  rw [tokens?]
  · rintro rfl
    exact absurd rfl h
  · rintro d more rfl
    exact absurd rfl h

theorem tokens?_append {first second : List Char} {left right : List Token}
    (hfirst : tokens? first = some left) (hsecond : tokens? second = some right) :
    tokens? (first ++ second) = some (left ++ right) := by
  fun_induction tokens? first generalizing left with
  | case1 =>
    obtain rfl := Option.some.inj hfirst
    exact hsecond
  | case2 => cases hfirst
  | case3 c rest ih =>
    obtain ⟨others, hothers, rfl⟩ := Option.map_eq_some_iff.mp hfirst
    simp [tokens?, ih hothers]
  | case4 c rest not_last not_escape ih =>
    obtain ⟨others, hothers, rfl⟩ := Option.map_eq_some_iff.mp hfirst
    have hc : c ≠ '\\' := by
      rintro rfl
      cases rest with
      | nil => exact not_last rfl rfl
      | cons d more => exact not_escape d more rfl rfl
    rw [List.cons_append, tokens?_cons hc, ih hothers]
    rfl

/-- A plain token at the front is the first character of the text. -/
theorem head?_of_tokens? {text : List Char} {c : Char} {rest : List Token}
    (h : tokens? text = some (.plain c :: rest)) : text.head? = some c := by
  rw [tokens?.eq_def] at h
  split at h
  · cases h
  · cases h
  · obtain ⟨_, _, h⟩ := Option.map_eq_some_iff.mp h
    simp at h
  · obtain ⟨_, _, h⟩ := Option.map_eq_some_iff.mp h
    simpa using (List.cons.inj h).1

end Tokens

section Marks

variable {c : Char}

theorem isOctalDigit_of_mark (mark : c.isAlphanum = false) : isOctalDigit c = false := by
  have hdigit : ('0' ≤ c && c ≤ '9') = false := (Bool.or_eq_false_iff.mp mark).2
  simp only [isOctalDigit, Bool.and_eq_false_iff, decide_eq_false_iff_not] at *
  refine hdigit.imp_right fun hlast hoctal => hlast ?_
  exact Char.le_trans hoctal (by decide)

theorem ne_of_mark (mark : c.isAlphanum = false) {d : Char} (hd : d.isAlphanum = true) :
    c ≠ d := by
  rintro rfl
  simp [mark] at hd

theorem classEscape?_of_mark (mark : c.isAlphanum = false) : classEscape? c = none := by
  rw [classEscape?.eq_def]
  split
  all_goals first | exact absurd mark (by decide) | rfl

theorem controlEscape?_of_mark (mark : c.isAlphanum = false) :
    controlEscape? c = if c = '\\' then some c.toNat else none := by
  rw [controlEscape?.eq_def]
  split
  all_goals first | exact absurd mark (by decide) | rfl | simp_all

theorem codeEscape?_of_mark (mark : c.isAlphanum = false) (rest : List Token) :
    codeEscape? c rest = some (c.toNat, rest) := by
  rw [codeEscape?, if_neg (ne_of_mark mark rfl), if_neg (ne_of_mark mark rfl),
    if_neg (ne_of_mark mark rfl), if_neg (ne_of_mark mark rfl), if_neg (by simp [mark])]

/-- Behind a backslash a mark stands for itself, in a class and outside. -/
theorem setEscape?_of_mark (mark : c.isAlphanum = false) (rest : List Token) :
    setEscape? c rest = some (.code c.toNat, rest) := by
  rw [setEscape?, if_neg (ne_of_mark mark rfl), controlEscape?_of_mark mark,
    classEscape?_of_mark mark]
  by_cases hescape : c = '\\'
  · simp [hescape]
  · simp [hescape, isOctalDigit_of_mark mark, codeEscape?_of_mark mark]

theorem escape?_of_mark (mark : c.isAlphanum = false) (g : Groups) (rest : List Token) :
    escape? {} g c rest = some (codePiece {} c.toNat, rest) := by
  rw [escape?, if_neg (ne_of_mark mark rfl), if_neg (ne_of_mark mark rfl),
    if_neg (ne_of_mark mark rfl), if_neg (ne_of_mark mark rfl), classEscape?_of_mark mark,
    controlEscape?_of_mark mark]
  by_cases hescape : c = '\\'
  · simp [hescape]
  · have hdigit : c.isDigit = false := (Bool.or_eq_false_iff.mp mark).2
    simp [hescape, hdigit, codeEscape?_of_mark mark]

end Marks

section Classes

def spanItem : Span → SetItem
  | .one c => .code c.toNat
  | .through first last => .range first.toNat last.toNat

/-- A character of a class is one token, and read as itself. -/
theorem setMember?_of_writes {begins : Bool} {c : Char} {text : List Char}
    (h : WritesChar begins c text) : ∃ token, tokens? text = some [token] ∧
      (token = .plain ']' → begins = true) ∧
      ∀ rest, setMember? (token :: rest) = some (.code c.toNat, rest) := by
  cases h with
  | plain not_escape not_close =>
    refine ⟨.plain c, by simp [tokens?_cons not_escape, tokens?], ?_, fun rest => rfl⟩
    intro hclose
    exact not_close (Token.plain.inj hclose)
  | escaped mark =>
    exact ⟨.escaped c, by simp [tokens?], by simp, fun rest => setEscape?_of_mark mark rest⟩

section Members

variable {fuel : Nat} {begins : Bool} {token : Token} {c : Char} {rest left : List Token}
  {items : List SetItem}

theorem not_closing (not_close : token = .plain ']' → begins = true) :
    ∀ more, begins = false → token :: rest = .plain ']' :: more → False := by
  rintro more rfl hclose
  exact absurd (not_close (List.cons.inj hclose).1) (by simp)

theorem setMembers?_hyphen (not_close : token = .plain ']' → begins = true)
    (member : ∀ rest, setMember? (token :: rest) = some (.code c.toNat, rest)) :
    setMembers? (fuel + 1) begins (token :: .plain '-' :: .plain ']' :: rest) =
      some ([.code c.toNat, .code '-'.toNat], rest) := by
  rw [setMembers?, member]
  · rfl
  · exact not_closing not_close

theorem setMembers?_one (not_close : token = .plain ']' → begins = true)
    (member : ∀ rest, setMember? (token :: rest) = some (.code c.toNat, rest))
    (noRange : ∀ more, rest ≠ .plain '-' :: more)
    (others : setMembers? fuel false rest = some (items, left)) :
    setMembers? (fuel + 1) begins (token :: rest) = some (.code c.toNat :: items, left) := by
  rw [setMembers?, member]
  · split
    · next h => cases h
    · next h =>
      obtain ⟨-, hrest⟩ := Prod.mk.inj (Option.some.inj h)
      exact absurd hrest (noRange _)
    · next h =>
      obtain ⟨-, hrest⟩ := Prod.mk.inj (Option.some.inj h)
      exact absurd hrest (noRange _)
    · next h =>
      obtain ⟨rfl, rfl⟩ := Prod.mk.inj (Option.some.inj h)
      simp [others]
  · exact not_closing not_close

theorem setMembers?_through {last : Char} {ending : Token}
    (not_close : token = .plain ']' → begins = true)
    (member : ∀ rest, setMember? (token :: rest) = some (.code c.toNat, rest))
    (not_closed : ending ≠ .plain ']')
    (final : ∀ rest, setMember? (ending :: rest) = some (.code last.toNat, rest))
    (ordered : c ≤ last) (others : setMembers? fuel false rest = some (items, left)) :
    setMembers? (fuel + 1) begins (token :: .plain '-' :: ending :: rest) =
      some (.range c.toNat last.toNat :: items, left) := by
  have hcodes : c.toNat ≤ last.toNat := ordered
  rw [setMembers?, member]
  · split
    · next h => cases h
    · next h =>
      obtain ⟨-, hrest⟩ := Prod.mk.inj (Option.some.inj h)
      simp [not_closed] at hrest
    · next h =>
      obtain ⟨rfl, hrest⟩ := Prod.mk.inj (Option.some.inj h)
      obtain ⟨-, rfl⟩ := List.cons.inj hrest
      simp [final, hcodes, others]
    · next not_range h =>
      obtain ⟨-, hrest⟩ := Prod.mk.inj (Option.some.inj h)
      exact absurd hrest.symm (not_range _)
  · exact not_closing not_close

end Members

/-- The members of a plain class are read as they are written, up to the closing bracket. -/
theorem setMembers?_of_writes {begins : Bool} {members : List Span} {inside : List Char}
    (h : WritesMembers begins members inside) : ∃ tokens, tokens? inside = some tokens ∧
      ∀ fuel left, tokens.length < fuel →
        setMembers? fuel begins (tokens ++ .plain ']' :: left) =
          some (members.map spanItem, left) := by
  induction h with
  | nil =>
    refine ⟨[], rfl, fun fuel left hfuel => ?_⟩
    obtain ⟨fuel, rfl⟩ := Nat.exists_eq_succ_of_ne_zero (by omega : fuel ≠ 0)
    rfl
  | @one begins c text rest more written noRange others ih =>
    obtain ⟨token, htoken, not_close, member⟩ := setMember?_of_writes written
    obtain ⟨tokens, htokens, hread⟩ := ih
    refine ⟨token :: tokens, tokens?_append htoken htokens, fun fuel left hfuel => ?_⟩
    obtain ⟨fuel, rfl⟩ := Nat.exists_eq_succ_of_ne_zero (by omega : fuel ≠ 0)
    have hothers := hread fuel left (by simpa using hfuel)
    by_cases hhyphen : rest.head? = some '-'
    · -- A hyphen here is the last character, and the only member that is left.
      obtain rfl := noRange hhyphen
      obtain rfl : [.plain '-'] = tokens := Option.some.inj htokens
      have hmore : more.map spanItem = [.code '-'.toNat] := by
        have hlast := hread 2 left (by simp)
        exact (Prod.mk.inj (Option.some.inj hlast)).1.symm
      rw [List.map_cons, hmore]
      exact setMembers?_hyphen not_close member
    · refine setMembers?_one not_close member (fun others hstart => ?_) hothers
      cases tokens with
      | nil => simp at hstart
      | cons next tokens =>
        obtain ⟨rfl, -⟩ := List.cons.inj hstart
        exact hhyphen (head?_of_tokens? htokens)
  | @through begins first last left right rest more fromHere toHere ordered others ih =>
    obtain ⟨token, htoken, not_close, member⟩ := setMember?_of_writes fromHere
    obtain ⟨ending, hending, not_closed, final⟩ := setMember?_of_writes toHere
    obtain ⟨tokens, htokens, hread⟩ := ih
    refine ⟨token :: .plain '-' :: ending :: tokens, ?_, fun fuel left hfuel => ?_⟩
    · have hright := tokens?_append hending htokens
      have hhyphen : tokens? ('-' :: (right ++ rest)) = some (.plain '-' :: ending :: tokens) := by
        rw [tokens?_cons (by decide), hright]
        rfl
      exact tokens?_append htoken hhyphen
    · obtain ⟨fuel, rfl⟩ := Nat.exists_eq_succ_of_ne_zero (by omega : fuel ≠ 0)
      have hothers := hread fuel left (by simp at hfuel; omega)
      have hopen : ending ≠ .plain ']' := fun hclose => absurd (not_closed hclose) (by simp)
      exact setMembers?_through not_close member hopen final ordered hothers

theorem accepts_code (n : Nat) (c : Char) :
    (CharTest.code n false .exact).accepts c = (c.toNat == n) := by
  rw [CharTest.accepts, Folding.variants, List.contains_cons, List.contains_nil, Bool.or_false,
    Bool.bne_false, Bool.beq_comm]

theorem contains_code (n : Nat) (c : Char) :
    (SetItem.code n).contains .exact false c = (c.toNat == n) := by
  rw [SetItem.contains]
  split
  · rw [Folding.variants, List.contains_cons, List.contains_nil, Bool.or_false, Bool.beq_comm]
  · rfl

theorem contains_range (first last : Nat) (c : Char) :
    (SetItem.range first last).contains .exact false c = (first ≤ c.toNat && c.toNat ≤ last) := by
  rw [SetItem.contains]
  dsimp only
  split
  · simp [Folding.variants]
  · have habsorb (a b d : Bool) : ((a && b || false) || b || (false && d)) = b := by
      cases a <;> cases b <;> rfl
    exact habsorb _ _ _

theorem contains_spanItem (c : Char) (member : Span) :
    (spanItem member).contains .exact false c = member.covers c := by
  cases member with
  | one d =>
    rw [spanItem, contains_code, Span.covers, Bool.eq_iff_iff, beq_iff_eq, beq_iff_eq,
      Char.toNat_inj]
  | through first last => exact contains_range first.toNat last.toNat c

/-- The test accepts the characters of the class. -/
theorem accepts_ofItems (members : List Span) (c : Char) :
    (CharTest.ofItems {} false (members.map spanItem)).accepts c = belongs members c := by
  have hany : (members.map spanItem).eraseDups.any (·.contains .exact false c) =
      belongs members c := by
    rw [belongs, Bool.eq_iff_iff]
    simp [List.any_eq_true, List.mem_eraseDups, contains_spanItem]
  rw [← hany, CharTest.ofItems]
  split
  · next n hcode =>
    rw [hcode, List.any_cons, List.any_nil, Bool.or_false, contains_code]
    exact accepts_code n c
  · simp [CharTest.accepts, RegexOptions.folding]

/-- Reading a plain class yields a test on its members. -/
theorem set?_of_writes {members : List Span} {inside : List Char}
    (written : WritesMembers true members inside) (positive : inside.head? ≠ some '^') :
    ∃ tokens test, tokens? inside = some tokens ∧ (∀ c, test.accepts c = belongs members c) ∧
      ∀ left, set? {} (tokens ++ .plain ']' :: left) = some (test, left) := by
  obtain ⟨tokens, htokens, hread⟩ := setMembers?_of_writes written
  refine ⟨tokens, _, htokens, accepts_ofItems members, fun left => ?_⟩
  have hread := hread ((tokens ++ .plain ']' :: left).length + 1) left
    (by rw [List.length_append]; omega)
  have hpositive : ∀ more, tokens ++ .plain ']' :: left ≠ .plain '^' :: more := by
    intro more hstart
    cases tokens with
    | nil => simp at hstart
    | cons token tokens =>
      obtain ⟨rfl, -⟩ := List.cons.inj hstart
      exact positive (head?_of_tokens? htokens)
  rw [set?, hread]
  · rfl
  · exact hpositive

end Classes

section Items

def runItem (test : CharTest) : Item :=
  ⟨.repOne .greedy 1 none test, ⟨1, widthLimit⟩, false⟩

def groupItem (n : Nat) (test : CharTest) : Item :=
  ⟨.group n (.repOne .greedy 1 none test), ⟨1, widthLimit⟩, false⟩

/-- How an item matches a part: a character, or a class once or more, perhaps in a group. -/
inductive Realizes : Part → Item → Prop
  | char {c : Char} : Realizes (.char c) ⟨.one (.code c.toNat false .exact), Width.one, false⟩
  | run {members : List Span} {test : CharTest}
      (accepts : ∀ c, test.accepts c = belongs members c) :
      Realizes (.run members) (runItem test)
  | group {members : List Span} {test : CharTest} {n : Nat}
      (accepts : ∀ c, test.accepts c = belongs members c) :
      Realizes (.run members) (groupItem n test)

/-- Nothing has been read that is to be checked at the end. -/
structure Groups.Unchecked (g : Groups) : Prop where
  behindFits : g.behindFits = true
  mentioned : g.mentioned = []

/-- No mark stands here that changes how a repetition in front of it matches. -/
def Unmarked (tokens : List Token) : Prop :=
  greed tokens = (.greedy, tokens)

/-- Reading these tokens adds pieces to whatever was read before. -/
def Reads (tokens : List Token) (g after : Groups) (pieces : List Piece) : Prop :=
  ∃ cost ≤ tokens.length, ∀ fuel before rest, 6 ≤ fuel → Unmarked rest →
    items (fuel + cost) {} g before (tokens ++ rest) =
      items fuel {} after (pieces.reverse ++ before) rest

theorem Reads.nil (g : Groups) : Reads [] g g [] :=
  ⟨0, Nat.le_refl _, fun _ _ _ _ _ => rfl⟩

theorem Reads.append {first second : List Token} {g middle after : Groups}
    {pieces others : List Piece} (hfirst : Reads first g middle pieces)
    (hsecond : Reads second middle after others)
    (unmarked : ∀ rest, Unmarked rest → Unmarked (second ++ rest)) :
    Reads (first ++ second) g after (pieces ++ others) := by
  obtain ⟨cost, hcost, hfirst⟩ := hfirst
  obtain ⟨more, hmore, hsecond⟩ := hsecond
  refine ⟨more + cost, by rw [List.length_append]; omega, fun fuel before rest hfuel hrest => ?_⟩
  calc items (fuel + (more + cost)) {} g before (first ++ second ++ rest)
      = items (fuel + more + cost) {} g before (first ++ (second ++ rest)) := by
        rw [List.append_assoc, Nat.add_assoc]
    _ = items (fuel + more) {} middle (pieces.reverse ++ before) (second ++ rest) :=
        hfirst _ _ _ (by omega) (unmarked rest hrest)
    _ = items fuel {} after (others.reverse ++ (pieces.reverse ++ before)) rest :=
        hsecond _ _ _ hfuel hrest
    _ = items fuel {} after ((pieces ++ others).reverse ++ before) rest := by
        rw [List.reverse_append, List.append_assoc]

theorem reads_plain {c : Char} (h : Pattern.isPlain c = true) (g : Groups) :
    Reads [.plain c] g g [codePiece {} c.toNat] := by
  refine ⟨1, Nat.le_refl _, fun fuel before rest _ _ => ?_⟩
  simp only [Pattern.isPlain, Pattern.isQuantifier, Bool.not_eq_true', Bool.or_eq_false_iff,
    beq_eq_false_iff_ne] at h
  rw [List.singleton_append, items] <;> simp_all

theorem reads_mark {c : Char} (mark : c.isAlphanum = false) (g : Groups) :
    Reads [.escaped c] g g [codePiece {} c.toNat] := by
  refine ⟨1, Nat.le_refl _, fun fuel before rest _ _ => ?_⟩
  rw [List.singleton_append, items, escape?_of_mark mark]
  rfl

theorem reads_caret (g : Groups) : Reads [.plain '^'] g g [anchorPiece (.start false)] := by
  refine ⟨1, Nat.le_refl _, fun fuel before rest _ _ => ?_⟩
  rw [List.singleton_append, items]
  rfl

theorem reads_dollar (g : Groups) : Reads [.plain '$'] g g [anchorPiece (.finish false)] := by
  refine ⟨1, Nat.le_refl _, fun fuel before rest _ _ => ?_⟩
  rw [List.singleton_append, items]
  rfl

/-- A class with the mark for one round or more. -/
theorem items_class {test : CharTest} {tokens rest : List Token}
    (hset : ∀ left, set? {} (tokens ++ .plain ']' :: left) = some (test, left))
    (hrest : Unmarked rest) (fuel : Nat) (g : Groups) (before : List Piece) :
    items (fuel + 2) {} g before
        (.plain '[' :: (tokens ++ .plain ']' :: .plain '+' :: rest)) =
      items fuel {} g ((testPiece test).repeated .greedy 1 none :: before) rest := by
  rw [items, hset]
  change items (fuel + 1) {} g (testPiece test :: before) (.plain '+' :: rest) = _
  rw [Unmarked] at hrest
  rw [items] <;> simp [quantifier, testPiece, Piece.single, hrest]

theorem items_repeated (test : CharTest) :
    ((testPiece test).repeated .greedy 1 none).items = [runItem test] := by
  simp [Piece.repeated, testPiece, Piece.single, runItem, sequenceWidth, Width.plus, Width.times,
    Width.one, Width.zero, Regex.repeated, sequence, widthLimit]

def groupedPiece (n : Nat) (test : CharTest) : Piece :=
  let body := ((testPiece test).repeated .greedy 1 none).items
  .single (.group n (sequence body)) (sequenceWidth body)

theorem items_grouped (n : Nat) (test : CharTest) :
    (groupedPiece n test).items = [groupItem n test] := by
  simp [groupedPiece, items_repeated, Piece.single, groupItem, runItem, sequenceWidth, sequence,
    Width.plus, Width.zero, widthLimit]

theorem alternatives_class {test : CharTest} {tokens rest : List Token}
    (hset : ∀ left, set? {} (tokens ++ .plain ']' :: left) = some (test, left))
    (fuel : Nat) (g : Groups) :
    alternatives (fuel + 4) {} g
        (.plain '[' :: (tokens ++ .plain ']' :: .plain '+' :: .plain ')' :: rest)) =
      .ok (((testPiece test).repeated .greedy 1 none).items, g, .plain ')' :: rest) := by
  have hclosing : Unmarked (.plain ')' :: rest) := rfl
  have hmore : moreAlternatives (fuel + 3) {} g (.plain ')' :: rest) =
      .ok ([], g, .plain ')' :: rest) := by
    rw [moreAlternatives]
    · rfl
    · simp
  rw [alternatives, items_class hset hclosing (fuel + 1), items]
  simp [hmore, bind, Except.bind, pure, Except.pure, alternativeItems]

/-- Groups when one more has been opened and closed, its body having some width. -/
def Groups.withOne (g : Groups) (width : Width) : Groups :=
  ({ g with widths := g.widths ++ [none] } : Groups).close g.count width

theorem Groups.Unchecked.withOne {g : Groups} (h : g.Unchecked) (width : Width) :
    (g.withOne width).Unchecked :=
  ⟨h.behindFits, h.mentioned⟩

/-- A class in a group. -/
theorem items_group {test : CharTest} {tokens : List Token}
    (hset : ∀ left, set? {} (tokens ++ .plain ']' :: left) = some (test, left))
    (fuel : Nat) (g : Groups) (before : List Piece) (rest : List Token) :
    items (fuel + 6) {} g before
        (.plain '(' :: .plain '[' :: (tokens ++ .plain ']' :: .plain '+' :: .plain ')' :: rest)) =
      items (fuel + 5) {}
        (g.withOne (sequenceWidth ((testPiece test).repeated .greedy 1 none).items))
        (groupedPiece g.count test :: before) rest := by
  have hopening (left : List Token) :
      opening? {} g (.plain '[' :: left) = some (.group none (.plain '[' :: left)) := rfl
  rw [items, hopening]
  change (parenthesis (fuel + 5) {} g (.group none _) >>= _) = _
  rw [parenthesis]
  change ((alternatives (fuel + 4) {} _ _ >>= _) >>= _) = _
  rw [alternatives_class hset]
  rfl

theorem unmarked_cons {token : Token} (not_lazy : token ≠ .plain '?')
    (not_possessive : token ≠ .plain '+') (rest : List Token) : Unmarked (token :: rest) := by
  rw [Unmarked, greed]
  · rintro more h
    exact not_lazy (List.cons.inj h).1
  · rintro more h
    exact not_possessive (List.cons.inj h).1

/-- Reading a source adds pieces that match parts one by one. -/
def ReadsAs (source : List Char) (parts : List Part) : Prop :=
  ∃ tokens, tokens? source = some tokens ∧
    (∀ rest, Unmarked rest → Unmarked (tokens ++ rest)) ∧
    ∀ g : Groups, g.Unchecked → ∃ after pieces, after.Unchecked ∧ Reads tokens g after pieces ∧
      List.Forall₂ Realizes parts (pieces.flatMap Piece.items)

theorem ReadsAs.nil : ReadsAs [] [] :=
  ⟨[], rfl, fun _ h => h, fun g hg => ⟨g, [], hg, .nil g, .nil⟩⟩

theorem ReadsAs.append {first second : List Char} {parts others : List Part}
    (hfirst : ReadsAs first parts) (hsecond : ReadsAs second others) :
    ReadsAs (first ++ second) (parts ++ others) := by
  obtain ⟨left, hleft, unmarked, hfirst⟩ := hfirst
  obtain ⟨right, hright, unmarked', hsecond⟩ := hsecond
  refine ⟨left ++ right, tokens?_append hleft hright, fun rest hrest => ?_, fun g hg => ?_⟩
  · rw [List.append_assoc]
    exact unmarked _ (unmarked' rest hrest)
  · obtain ⟨middle, pieces, hmiddle, hreads, hrealized⟩ := hfirst g hg
    obtain ⟨after, more, hafter, hreads', hrealized'⟩ := hsecond middle hmiddle
    refine ⟨after, pieces ++ more, hafter, hreads.append hreads' unmarked', ?_⟩
    rw [List.flatMap_append]
    exact List.rel_append hrealized hrealized'

theorem readsAs_plain {c : Char} (h : Pattern.isPlain c = true) : ReadsAs [c] [.char c] := by
  have hne (d : Char) (hd : Pattern.isPlain d = false) : c ≠ d := by
    rintro rfl
    simp [h] at hd
  refine ⟨[.plain c], by simp [tokens?_cons (hne '\\' rfl), tokens?], fun rest _ => ?_,
    fun g hg => ⟨g, _, hg, reads_plain h g, .cons .char .nil⟩⟩
  refine unmarked_cons ?_ ?_ rest
  · exact fun heq => hne '?' rfl (Token.plain.inj heq)
  · exact fun heq => hne '+' rfl (Token.plain.inj heq)

theorem readsAs_mark {c : Char} (mark : c.isAlphanum = false) : ReadsAs ['\\', c] [.char c] :=
  ⟨[.escaped c], by simp [tokens?], fun rest _ => unmarked_cons (by simp) (by simp) rest,
    fun g hg => ⟨g, _, hg, reads_mark mark g, .cons .char .nil⟩⟩

theorem readsAs_class {members : List Span} {text : List Char}
    (written : WritesClass members text) : ReadsAs (text ++ ['+']) [.run members] := by
  cases written with
  | @mk inside written positive =>
    obtain ⟨tokens, test, htokens, accepts, hset⟩ := set?_of_writes written positive
    have hclose : tokens? [']', '+'] = some [.plain ']', .plain '+'] := rfl
    have hsource : tokens? ('[' :: (inside ++ [']', '+'])) =
        some (.plain '[' :: (tokens ++ [.plain ']', .plain '+'])) := by
      rw [tokens?_cons (by decide), tokens?_append htokens hclose]
      rfl
    refine ⟨.plain '[' :: (tokens ++ [.plain ']', .plain '+']), by simpa using hsource,
      fun rest _ => unmarked_cons (by simp) (by simp) _, fun g hg => ?_⟩
    refine ⟨g, [(testPiece test).repeated .greedy 1 none], hg, ⟨2, by simp, ?_⟩, ?_⟩
    · intro fuel before rest _ hrest
      simpa using items_class hset hrest fuel g before
    · rw [List.flatMap_singleton, items_repeated]
      exact .cons (.run accepts) .nil

theorem readsAs_group {members : List Span} {text : List Char}
    (written : WritesClass members text) :
    ReadsAs ('(' :: (text ++ ['+', ')'])) [.run members] := by
  cases written with
  | @mk inside written positive =>
    obtain ⟨tokens, test, htokens, accepts, hset⟩ := set?_of_writes written positive
    have hclose : tokens? [']', '+', ')'] = some [.plain ']', .plain '+', .plain ')'] := rfl
    have hsource : tokens? ('(' :: '[' :: (inside ++ [']', '+', ')'])) =
        some (.plain '(' :: .plain '[' :: (tokens ++ [.plain ']', .plain '+', .plain ')'])) := by
      rw [tokens?_cons (by decide), tokens?_cons (by decide), tokens?_append htokens hclose]
      rfl
    refine ⟨.plain '(' :: .plain '[' :: (tokens ++ [.plain ']', .plain '+', .plain ')']),
      by simpa using hsource, fun rest _ => unmarked_cons (by simp) (by simp) _, fun g hg => ?_⟩
    refine ⟨g.withOne (sequenceWidth ((testPiece test).repeated .greedy 1 none).items),
      [groupedPiece g.count test], hg.withOne _, ⟨1, by simp, ?_⟩, ?_⟩
    · intro fuel before rest hfuel _
      obtain ⟨fuel, rfl⟩ := Nat.exists_eq_add_of_le' (show 5 ≤ fuel by omega)
      simpa using items_group hset fuel g before rest
    · rw [List.flatMap_singleton, items_grouped]
      exact .cons (.group accepts) .nil

theorem readsAs_text {text : List Char} (h : ∀ c ∈ text, Pattern.isPlain c = true) :
    ReadsAs text (text.map .char) := by
  induction text with
  | nil => exact .nil
  | cons c text ih =>
    obtain ⟨hc, htext⟩ := List.forall_mem_cons.mp h
    exact (readsAs_plain hc).append (ih htext)

/-- A segment between the anchors is read as the parts that it writes. -/
theorem readsAs_of_writes {s : Segment} {parts : List Part} (inner : s.IsInner)
    (written : Pattern.Writes s parts) : ReadsAs s.source parts := by
  cases written with
  | fixed isFixed =>
    rcases isFixed with hliteral | hmark
    · obtain ⟨hsource, hplain⟩ := inner.plain hliteral
      rw [hsource]
      exact readsAs_text hplain
    · obtain ⟨c, hsource, hliteral, hc⟩ := inner.mark hmark
      rw [hsource, hliteral]
      refine readsAs_mark ?_
      by_contra halphanum
      simp [Text.isAlphanumeric_of_isAlphanum (by simpa using halphanum)] at hc
  | class_ _ written source =>
    rw [source]
    exact readsAs_class written
  | captured _ written source =>
    rw [source]
    exact readsAs_group written

theorem readsAs_spelling {segments : List Segment} {each : List (List Part)}
    (inner : ∀ s ∈ segments, s.IsInner)
    (written : List.Forall₂ Pattern.Writes segments each) :
    ReadsAs (Pattern.spelling segments) each.flatten := by
  induction written with
  | nil => exact .nil
  | @cons s parts segments each hs _ ih =>
    obtain ⟨hinner, hmore⟩ := List.forall_mem_cons.mp inner
    exact (readsAs_of_writes hinner hs).append (ih hmore)

end Items

section Expressions

/-- A text whose tokens can be read to the end is an expression in sequence. -/
theorem parse_of_reads {text : List Char} {tokens : List Token} {after : Groups}
    {pieces : List Piece} (htokens : tokens? text = some tokens)
    (reads : Reads tokens {} after pieces) (unchecked : after.Unchecked) :
    parse text = .ok ⟨sequence (pieces.flatMap Piece.items),
      (sequenceWidth (pieces.flatMap Piece.items)).least⟩ := by
  obtain ⟨cost, hcost, hreads⟩ := reads
  obtain ⟨fuel, hfuel⟩ : ∃ fuel, 3 * tokens.length + 9 = fuel + 6 + cost :=
    ⟨3 * tokens.length + 3 - cost, by omega⟩
  have hitems : items (3 * tokens.length + 9) {} {} [] tokens =
      .ok (pieces.flatMap Piece.items, after, []) := by
    have hall := hreads (fuel + 6) [] [] (by omega) rfl
    rw [List.append_nil, ← hfuel, List.append_nil, items, List.reverse_reverse] at hall
    exact hall
  have halternatives : alternatives (3 * tokens.length + 10) {} {} tokens =
      .ok (pieces.flatMap Piece.items, after, []) := by
    rw [alternatives, hitems]
    rfl
  rw [parse, htokens]
  dsimp only
  rw [halternatives]
  simp [unchecked.behindFits, unchecked.mentioned]

def anchorItem (a : Anchor) : Item :=
  ⟨.anchor a, Width.zero, false⟩

theorem least_sequenceWidth_cons_le (item : Item) (items : List Item) :
    (sequenceWidth (item :: items)).least ≤ item.width.least + (sequenceWidth items).least :=
  Nat.min_le_left _ _

/-- An expression claims no more characters than it has parts, besides what follows them. -/
theorem least_sequenceWidth_le {parts : List Part} {items : List Item}
    (realized : List.Forall₂ Realizes parts items) (tail : List Item) :
    (sequenceWidth (items ++ tail)).least ≤ parts.length + (sequenceWidth tail).least := by
  induction realized with
  | nil => exact Nat.le_add_left _ _
  | @cons part item parts items hitem _ ih =>
    have hone : item.width.least = 1 := by cases hitem <;> rfl
    calc (sequenceWidth (item :: (items ++ tail))).least
        ≤ 1 + (sequenceWidth (items ++ tail)).least :=
          hone ▸ least_sequenceWidth_cons_le item (items ++ tail)
      _ ≤ (part :: parts).length + (sequenceWidth tail).least := by
        rw [List.length_cons]
        omega

/-- A source between the anchors is an expression whose items match its parts, and so is what stands
in front of the dollar. -/
theorem exists_parse_of_readsAs {source : List Char} {parts : List Part}
    (h : ReadsAs source parts) : ∃ items, List.Forall₂ Realizes parts items ∧
      (∃ least ≤ parts.length, parse ('^' :: source) =
        .ok ⟨sequence (anchorItem (.start false) :: items), least⟩) ∧
      ∃ least ≤ parts.length, parse ('^' :: source ++ ['$']) =
        .ok ⟨sequence (anchorItem (.start false) :: (items ++ [anchorItem (.finish false)])),
          least⟩ := by
  obtain ⟨tokens, htokens, unmarked, hreads⟩ := h
  obtain ⟨after, pieces, hafter, hreads, realized⟩ := hreads {} ⟨rfl, rfl⟩
  have hsource : tokens? ('^' :: source) = some ([.plain '^'] ++ tokens) := by
    rw [tokens?_cons (by decide), htokens]
    rfl
  have hdollar : tokens? ['$'] = some [.plain '$'] := rfl
  have hprefix := (reads_caret {}).append hreads unmarked
  have hwhole := hprefix.append (reads_dollar after) fun rest _ => rfl
  -- Anchors take nothing.
  have hleast (tail : List Item) (empty : (sequenceWidth tail).least = 0) :
      (sequenceWidth (anchorItem (.start false) :: (pieces.flatMap Piece.items ++ tail))).least ≤
        parts.length := by
    refine (least_sequenceWidth_cons_le _ _).trans ?_
    have hitems := least_sequenceWidth_le realized tail
    rw [empty] at hitems
    exact (Nat.zero_add _).le.trans hitems
  refine ⟨pieces.flatMap Piece.items, realized, ⟨_, ?_, parse_of_reads hsource hprefix hafter⟩, ?_⟩
  · have hnothing := hleast [] rfl
    rwa [List.append_nil] at hnothing
  · have hparsed := parse_of_reads (tokens?_append hsource hdollar) hwhole hafter
    have hitems : ([anchorPiece (.start false)] ++ pieces ++ [anchorPiece (.finish false)]).flatMap
        Piece.items = anchorItem (.start false) ::
          (pieces.flatMap Piece.items ++ [anchorItem (.finish false)]) := by
      rw [List.flatMap_append, List.flatMap_append]
      rfl
    rw [hitems] at hparsed
    exact ⟨_, hleast _ rfl, hparsed⟩

end Expressions
end NextWord.Regex
