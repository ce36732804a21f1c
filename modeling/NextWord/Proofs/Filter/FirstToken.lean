import NextWord.Proofs.Filter.Taken

/-!
# The token at the start of a text

The token that is read is of the first legal kind that matches. A sign or an operator is read alike
whatever follows it; a raw word and the contents of quotation marks are read alike as long as the
token behind them stays where it is.
-/

namespace NextWord.Filter

open Text (isBlank isBlank_of_isAlphanum)

namespace TokenKind

/-- The sign that ends a token of a kind, where nothing but blanks comes before it. -/
def sign? : TokenKind → Option Char
  | .chain => some ':'
  | .rightParen => some ')'
  | .comma => some ','
  | .singleQuote => some '\''
  | .doubleQuote => some '"'
  | _ => none

def names? : TokenKind → Option (List String)
  | .binaryOp => some binaryOperators
  | .varargOp => some varargOperators
  | _ => none

def mark? : TokenKind → Option Char
  | .singleQuotedContents => some '\''
  | .doubleQuotedContents => some '"'
  | _ => none

/-- The kinds that are tried before a kind. -/
def earlier (kind : TokenKind) : List TokenKind :=
  all.takeWhile (· ≠ kind)

theorem earlier_append (kind : TokenKind) : ∃ later, all = kind.earlier ++ kind :: later := by
  cases kind <;> exact ⟨_, rfl⟩

theorem isBlank_of_sign {kind : TokenKind} {sign : Char} (h : kind.sign? = some sign) :
    isBlank sign = false := by
  cases kind <;> cases h <;> decide

theorem names_subset {kind : TokenKind} {names : List String} (h : kind.names? = some names) :
    names ⊆ operators := by
  cases kind <;> cases h <;> decide

theorem isBlank_of_mark {kind : TokenKind} {mark : Char} (h : kind.mark? = some mark) :
    isBlank mark = false := by
  cases kind <;> cases h <;> decide

theorem mark_ne_backslash {kind : TokenKind} {mark : Char} (h : kind.mark? = some mark) :
    mark ≠ '\\' := by
  cases kind <;> cases h <;> decide

/-- The four families of kinds. -/
theorem family (kind : TokenKind) :
    (∃ sign, kind.sign? = some sign) ∨ (∃ names, kind.names? = some names) ∨
      (∃ mark, kind.mark? = some mark) ∨ kind = .rawLiteral := by
  cases kind <;> simp [sign?, names?, mark?]

theorem taken?_of_sign {kind : TokenKind} {sign : Char} (h : kind.sign? = some sign)
    (text : List Char) : kind.taken? text = signAt? sign text := by
  cases kind <;> cases h <;> rfl

theorem taken?_of_names {kind : TokenKind} {names : List String} (h : kind.names? = some names)
    (text : List Char) : kind.taken? text = operatorAt? names text := by
  cases kind <;> cases h <;> rfl

theorem taken?_of_mark {kind : TokenKind} {mark : Char} (h : kind.mark? = some mark)
    (text : List Char) : kind.taken? text =
      if contents mark text = [] then none else some (contents mark text) := by
  cases kind <;> cases h <;> (rw [taken?]; split <;> simp_all)

/-- Contents are taken as a whole, and not if there are none. -/
theorem taken?_of_mark_eq_some {kind : TokenKind} {mark : Char} (h : kind.mark? = some mark)
    {text taken : List Char} (htaken : kind.taken? text = some taken) :
    taken ≠ [] ∧ contents mark text = taken := by
  rw [taken?_of_mark h] at htaken
  split at htaken
  · cases htaken
  · next hne =>
    obtain rfl := Option.some.inj htaken
    exact ⟨hne, rfl⟩

end TokenKind

theorem mem_of_mem_takeWhile_ne {α : Type} [DecidableEq α] {a b : α} {before after : List α}
    (h : b ∈ (before ++ a :: after).takeWhile (· ≠ a)) : b ∈ before := by
  induction before with
  | nil => simp at h
  | cons c before ih =>
    by_cases hc : c = a
    · simp [hc] at h
    · rw [List.cons_append, List.takeWhile_cons_of_pos (by simpa using hc)] at h
      rcases List.mem_cons.mp h with rfl | h
      · exact List.mem_cons_self
      · exact List.mem_cons_of_mem c (ih h)

/-- The token at the start of a text is of the first legal kind that matches there. -/
theorem tokenAt?_eq_some {mode : Mode} {consumed text : List Char} {token : Token} :
    tokenAt? mode consumed text = some token ↔
      token.before = mode ∧ token.consumed = consumed ++ token.text ∧
        token.kind.next? mode = some token.after ∧ token.kind.taken? text = some token.text ∧
        ∀ other ∈ token.kind.earlier, (other.next? mode).isSome → other.taken? text = none := by
  constructor
  · intro h
    obtain ⟨before, kind, after, hall, hkind, hbefore⟩ := List.findSome?_eq_some_iff.mp h
    split at hkind
    · next next taken hnext htaken =>
      obtain rfl := Option.some.inj hkind
      refine ⟨rfl, rfl, hnext, htaken, fun other hother hlegal => ?_⟩
      rw [TokenKind.earlier, hall] at hother
      have hnone := hbefore other (mem_of_mem_takeWhile_ne hother)
      obtain ⟨next', hnext'⟩ := Option.isSome_iff_exists.mp hlegal
      rw [hnext'] at hnone
      cases htaken' : other.taken? text with
      | none => rfl
      | some taken' => simp [htaken'] at hnone
    · cases hkind
  · obtain ⟨kind, taken, whole, before, after⟩ := token
    rintro ⟨hbefore, hwhole, hnext, htaken, hearlier⟩
    dsimp only at hbefore hwhole hnext htaken hearlier
    subst hbefore hwhole
    obtain ⟨later, hall⟩ := kind.earlier_append
    refine List.findSome?_eq_some_iff.mpr ⟨_, kind, later, hall, ?_, fun other hother => ?_⟩
    · rw [hnext, htaken]
    · cases hlegal : other.next? before with
      | none => rfl
      | some next =>
        have hnone := hearlier other hother (by simp [hlegal])
        rw [hnone]

/-- What was consumed before is recorded in the token and decides nothing. -/
theorem tokenAt?_of_consumed {mode : Mode} {consumed text : List Char} {token : Token}
    (h : tokenAt? mode consumed text = some token) (other : List Char) :
    tokenAt? mode other text =
      some ⟨token.kind, token.text, other ++ token.text, mode, token.after⟩ := by
  obtain ⟨-, -, hnext, htaken, hearlier⟩ := tokenAt?_eq_some.mp h
  exact tokenAt?_eq_some.mpr ⟨rfl, rfl, hnext, htaken, hearlier⟩

/-- What is taken is the start of the text, and not empty. -/
theorem taken?_eq_some {kind : TokenKind} {text taken : List Char}
    (h : kind.taken? text = some taken) : taken ≠ [] ∧ ∃ rest, text = taken ++ rest := by
  rcases kind.family with ⟨sign, hsign⟩ | ⟨names, hnames⟩ | ⟨mark, hmark⟩ | rfl
  · rw [TokenKind.taken?_of_sign hsign] at h
    obtain ⟨blanks, rest, -, rfl, htext⟩ := (signAt?_eq_some (TokenKind.isBlank_of_sign hsign)).mp h
    exact ⟨by simp, rest, htext⟩
  · rw [TokenKind.taken?_of_names hnames] at h
    obtain ⟨name, -, ⟨blanks, gap, -, -, rfl⟩, rest, htext⟩ :=
      exists_isOpening (TokenKind.names_subset hnames) h
    exact ⟨by simp, rest, htext⟩
  · obtain ⟨hne, rfl⟩ := TokenKind.taken?_of_mark_eq_some hmark h
    obtain ⟨rest, htext, -⟩ := contents_split mark text
    exact ⟨hne, rest, htext⟩
  · obtain ⟨rest, htext, ⟨⟨blanks, c, word, -, -, -, rfl⟩, -⟩ | ⟨-, hlast, -⟩⟩ := rawAt?_eq_some h
    · exact ⟨by simp, rest, htext⟩
    · exact ⟨by rintro rfl; simp at hlast, rest, htext⟩

/-- A sign is read wherever it is legal, whatever comes behind it. -/
theorem tokenAt?_sign {kind : TokenKind} {sign : Char} {mode after : Mode}
    (hsign : kind.sign? = some sign) (hnext : kind.next? mode = some after) {blanks : List Char}
    (h : AllBlank blanks) (consumed rest : List Char) :
    tokenAt? mode consumed (blanks ++ sign :: rest) =
      some ⟨kind, blanks ++ [sign], consumed ++ (blanks ++ [sign]), mode, after⟩ := by
  have hat (other : Char) : signAt? other (blanks ++ sign :: rest) =
      if sign = other then some (blanks ++ [sign]) else none := by
    rw [signAt?_blanks h, signAt?_cons (TokenKind.isBlank_of_sign hsign)]
    split <;> simp
  cases kind <;> cases hsign <;> cases mode <;> cases hnext <;>
    simp [tokenAt?, TokenKind.all, TokenKind.next?, TokenKind.taken?, hat]

/-- An operator is read wherever a call may begin, whatever comes behind its parenthesis. -/
theorem tokenAt?_opening {kind : TokenKind} {names : List String} {name : String}
    (hnames : kind.names? = some names) (hname : name ∈ names) {opening : List Char}
    (h : IsOpening name opening) (consumed rest : List Char) :
    tokenAt? .regular consumed (opening ++ rest) =
      some ⟨kind, opening, consumed ++ opening, .regular, .call⟩ := by
  have hoperator := TokenKind.names_subset hnames hname
  have hbinary := operatorAt?_opening (List.subset_append_left _ _ : binaryOperators ⊆ operators)
    hoperator h rest
  have hvararg := operatorAt?_opening (List.subset_append_right _ _ : varargOperators ⊆ operators)
    hoperator h rest
  have hsign : signAt? ':' (opening ++ rest) = none := by
    obtain ⟨blanks, gap, hblanks, -, rfl⟩ := h
    obtain ⟨c, word, hword⟩ := List.exists_cons_of_ne_nil (ne_nil_of_mem_operators name hoperator)
    have hletter := isAlphanum_of_mem_operators name hoperator c (by simp [hword])
    have hc : c ≠ ':' := by rintro rfl; exact absurd hletter (by decide)
    rw [hword, List.append_assoc, signAt?_blanks hblanks, List.cons_append, List.cons_append,
      signAt?_cons (isBlank_of_isAlphanum hletter), if_neg hc]
    rfl
  cases kind with
  | binaryOp =>
    cases hnames
    rw [if_pos hname] at hbinary
    simp [tokenAt?, TokenKind.all, TokenKind.next?, TokenKind.taken?, hsign, hbinary]
  | varargOp =>
    cases hnames
    have hapart : ∀ name ∈ varargOperators, name ∉ binaryOperators := by decide
    have hother := hapart name hname
    rw [if_neg hother] at hbinary
    rw [if_pos hname] at hvararg
    simp [tokenAt?, TokenKind.all, TokenKind.next?, TokenKind.taken?, hsign, hbinary, hvararg]
  | _ => cases hnames

/-- Kinds of tokens that end with a character of their own. -/
def TokenKind.isClosed (kind : TokenKind) : Prop :=
  (∃ sign, kind.sign? = some sign) ∨ ∃ names, kind.names? = some names

/-- What is taken for a sign or an operator ends with a character that is no blank. -/
theorem exists_concat_of_isClosed {kind : TokenKind} (closed : kind.isClosed)
    {text taken : List Char} (h : kind.taken? text = some taken) :
    ∃ front c, taken = front ++ [c] ∧ isBlank c = false := by
  rcases closed with ⟨sign, hsign⟩ | ⟨names, hnames⟩
  · rw [TokenKind.taken?_of_sign hsign] at h
    have hblank := TokenKind.isBlank_of_sign hsign
    obtain ⟨blanks, -, -, rfl, -⟩ := (signAt?_eq_some hblank).mp h
    exact ⟨blanks, sign, rfl, hblank⟩
  · rw [TokenKind.taken?_of_names hnames] at h
    obtain ⟨name, -, ⟨blanks, gap, -, -, rfl⟩, -⟩ :=
      exists_isOpening (TokenKind.names_subset hnames) h
    exact ⟨blanks ++ (name.toList ++ gap), '(', by simp, by decide⟩

theorem next?_of_names {kind : TokenKind} {names : List String} (h : kind.names? = some names)
    {mode after : Mode} (hnext : kind.next? mode = some after) :
    mode = .regular ∧ after = .call := by
  cases kind <;> cases h <;> cases mode <;> cases hnext <;> exact ⟨rfl, rfl⟩

theorem tokenAt?_append_of_isClosed {mode : Mode} {consumed rest : List Char} {token : Token}
    (h : tokenAt? mode consumed (token.text ++ rest) = some token) (closed : token.kind.isClosed)
    (other : List Char) : tokenAt? mode consumed (token.text ++ other) = some token := by
  obtain ⟨kind, taken, whole, before, after⟩ := token
  obtain ⟨hbefore, hwhole, hnext, htaken, -⟩ := tokenAt?_eq_some.mp h
  dsimp only at hbefore hwhole hnext htaken closed ⊢
  subst hbefore hwhole
  rcases closed with ⟨sign, hsign⟩ | ⟨names, hnames⟩
  · rw [TokenKind.taken?_of_sign hsign] at htaken
    obtain ⟨blanks, -, hblanks, rfl, -⟩ :=
      (signAt?_eq_some (TokenKind.isBlank_of_sign hsign)).mp htaken
    rw [List.append_assoc]
    exact tokenAt?_sign hsign hnext hblanks consumed other
  · rw [TokenKind.taken?_of_names hnames] at htaken
    obtain ⟨name, hname, hopening, -⟩ :=
      exists_isOpening (TokenKind.names_subset hnames) htaken
    obtain ⟨rfl, rfl⟩ := next?_of_names hnames hnext
    exact tokenAt?_opening hnames hname hopening consumed other

/-- Between marks there are contents and the closing mark, which is tried first. -/
theorem next?_of_mark {kind : TokenKind} {mark : Char} (h : kind.mark? = some mark)
    {mode after : Mode} (hnext : kind.next? mode = some after) :
    after = mode ∧ ∃ closing ∈ kind.earlier, closing.sign? = some mark ∧
      closing.next? mode = some .call ∧
      ∀ other : TokenKind, (other.next? mode).isSome → other = closing ∨ other = kind := by
  cases kind with
  | singleQuotedContents =>
    cases mode <;> cases hnext
    cases h
    refine ⟨rfl, .singleQuote, by decide, rfl, rfl, fun other hlegal => ?_⟩
    cases other <;> simp_all [TokenKind.next?]
  | doubleQuotedContents =>
    cases mode <;> cases hnext
    cases h
    refine ⟨rfl, .doubleQuote, by decide, rfl, rfl, fun other hlegal => ?_⟩
    cases other <;> simp_all [TokenKind.next?]
  | _ => cases h

/-- A sign or an operator that is not found at a word is not found there whatever comes behind the
token that follows the word. -/
theorem taken?_word_append {kind : TokenKind} (closed : kind.isClosed) {word next : List Char}
    (hword : IsWord word) (hnext : ∃ c ∈ next, isBlank c = false)
    (hhead : ∀ c ∈ next.head?, isRaw c = false) (rest : List Char) :
    kind.taken? (word ++ (next ++ rest)) = kind.taken? (word ++ next) := by
  rcases closed with ⟨sign, hsign⟩ | ⟨names, hnames⟩
  · rw [TokenKind.taken?_of_sign hsign, TokenKind.taken?_of_sign hsign,
      signAt?_append hword.exists_not_blank, signAt?_append hword.exists_not_blank]
  · rw [TokenKind.taken?_of_names hnames, TokenKind.taken?_of_names hnames,
      operatorAt?_append (TokenKind.names_subset hnames) hword hnext hhead]

/-- A word leaves the mode as it is. -/
theorem before_of_raw {mode after : Mode} (hnext : TokenKind.rawLiteral.next? mode = some after) :
    mode = after := by
  cases mode <;> cases hnext <;> rfl

/-- A colon and a closing parenthesis lead out of calls. -/
theorem after_of_leaving {kind : TokenKind} (h : kind = .chain ∨ kind = .rightParen)
    {mode after : Mode} (hnext : kind.next? mode = some after) : after = .regular := by
  rcases h with rfl | rfl <;> cases mode <;> cases hnext <;> rfl

/-- Only these and words are followed by what stands outside of calls. -/
theorem isClosed_or_raw_of_next? {kind : TokenKind} {mode : Mode}
    (hnext : kind.next? mode = some .regular) : kind.isClosed ∨ kind = .rawLiteral := by
  cases kind <;> cases mode <;> cases hnext <;>
    first | exact .inl (.inl ⟨_, rfl⟩) | exact .inr rfl

theorem isClosed_of_next?_of_raw {mode after : Mode}
    (hnext : TokenKind.rawLiteral.next? mode = some after) {other : TokenKind}
    (hother : other ∈ TokenKind.rawLiteral.earlier) (hlegal : (other.next? mode).isSome) :
    other.isClosed := by
  have hraw : other ≠ .rawLiteral := by rintro rfl; exact absurd hother (by decide)
  rcases other.family with hsign | hnames | ⟨mark, hmark⟩ | hsame
  · exact .inl hsign
  · exact .inr hnames
  · cases mode <;> cases hnext <;> cases other <;> cases hmark <;> cases hlegal
  · exact absurd hsame hraw

theorem taken?_blanks_append {kind : TokenKind} (closed : kind.isClosed) {blanks : List Char}
    (h : AllBlank blanks) (text : List Char) :
    kind.taken? (blanks ++ text) = (kind.taken? text).map (blanks ++ ·) := by
  rcases closed with ⟨sign, hsign⟩ | ⟨names, hnames⟩
  · rw [TokenKind.taken?_of_sign hsign, TokenKind.taken?_of_sign hsign, signAt?_blanks h]
  · rw [TokenKind.taken?_of_names hnames, TokenKind.taken?_of_names hnames,
      operatorAt?_blanks_append h (TokenKind.names_subset hnames)]

/-- Behind blanks that were taken for a raw token nothing can be read: a sign or an operator would
have been read instead of them. -/
theorem tokenAt?_eq_none_of_allBlank {mode : Mode} {consumed rest : List Char} {token : Token}
    (h : tokenAt? mode consumed (token.text ++ rest) = some token)
    (hkind : token.kind = .rawLiteral) (hblank : AllBlank token.text)
    (hraw : rawAt? rest = none) (following : List Char) :
    tokenAt? token.after following rest = none := by
  obtain ⟨kind, blanks, whole, before, after⟩ := token
  obtain ⟨hbefore, -, hafter, -, hearlier⟩ := tokenAt?_eq_some.mp h
  dsimp only at hkind hblank hbefore hafter hearlier ⊢
  subst hkind hbefore
  rw [← before_of_raw hafter]
  cases hnext : tokenAt? before following rest with
  | none => rfl
  | some next =>
    obtain ⟨-, -, hlegal, htaken, -⟩ := tokenAt?_eq_some.mp hnext
    by_cases hsecond : next.kind = .rawLiteral
    · rw [hsecond] at htaken
      exact absurd htaken (by rw [TokenKind.taken?, hraw]; simp)
    · have hmem : next.kind ∈ TokenKind.rawLiteral.earlier := by
        revert hsecond
        cases next.kind <;> decide
      have hsome : (next.kind.next? before).isSome := by simp [hlegal]
      have hnone := hearlier next.kind hmem hsome
      rw [taken?_blanks_append (isClosed_of_next?_of_raw hafter hmem hsome) hblank, htaken] at hnone
      cases hnone

/-- A word is read alike as long as the token behind it is there. -/
theorem tokenAt?_append_of_isWord {mode : Mode} {consumed next rest : List Char} {token : Token}
    (h : tokenAt? mode consumed (token.text ++ (next ++ rest)) = some token)
    (hkind : token.kind = .rawLiteral) (hword : IsWord token.text)
    (hnext : ∃ c ∈ next, isBlank c = false) (other : List Char) :
    tokenAt? mode consumed (token.text ++ (next ++ other)) = some token := by
  obtain ⟨kind, word, whole, before, after⟩ := token
  obtain ⟨hbefore, hwhole, hafter, htaken, hearlier⟩ := tokenAt?_eq_some.mp h
  dsimp only at hkind hword hbefore hwhole hafter htaken hearlier ⊢
  subst hkind hbefore hwhole
  have hstop : ∀ c ∈ next.head?, isRaw c = false := by
    obtain ⟨left, htext, ⟨-, hleft⟩ | ⟨hblank, -, -⟩⟩ := rawAt?_eq_some htaken
    · rw [List.append_cancel_left_eq] at htext
      intro c hc
      exact hleft c (by rw [← htext, List.head?_append, Option.mem_def.mp hc]; rfl)
    · obtain ⟨c, hc, hnot⟩ := hword.exists_not_blank
      exact absurd (hblank c hc) (by simp [hnot])
  have hhead : ∀ c ∈ (next ++ other).head?, isRaw c = false := by
    obtain ⟨d, next, rfl⟩ := List.exists_cons_of_ne_nil
      (show next ≠ [] by rintro rfl; simp at hnext)
    intro c hc
    exact hstop c hc
  refine tokenAt?_eq_some.mpr ⟨rfl, rfl, hafter, rawAt?_append hword hhead, ?_⟩
  intro kind hkind hlegal
  have hclosed := isClosed_of_next?_of_raw hafter hkind hlegal
  have hnone := hearlier kind hkind hlegal
  rw [taken?_word_append hclosed hword hnext hstop] at hnone ⊢
  exact hnone

/-- The token behind contents is the closing mark itself. -/
theorem head?_of_tokenAt?_of_mark {kind : TokenKind} {mark : Char} (hmark : kind.mark? = some mark)
    {mode after : Mode} (hnext : kind.next? mode = some after) {consumed rest : List Char}
    (hstop : contents mark rest = []) {token : Token}
    (h : tokenAt? after consumed rest = some token) : token.text = [mark] := by
  obtain ⟨rfl, closing, -, hsign, -, hlegal⟩ := next?_of_mark hmark hnext
  obtain ⟨-, -, hafter, htaken, -⟩ := tokenAt?_eq_some.mp h
  rcases hlegal token.kind (by simp [hafter]) with hclosing | hsame
  · rw [hclosing, TokenKind.taken?_of_sign hsign] at htaken
    obtain ⟨blanks, left, hblanks, htext, rfl⟩ :=
      (signAt?_eq_some (TokenKind.isBlank_of_sign hsign)).mp htaken
    cases blanks with
    | nil => exact htext
    | cons c blanks =>
      have hc := hblanks c List.mem_cons_self
      have not_mark : c ≠ mark := by
        rintro rfl
        exact absurd hc (by simp [TokenKind.isBlank_of_sign hsign])
      have not_backslash : c ≠ '\\' := by rintro rfl; exact absurd hc (by decide)
      rw [htext, List.append_assoc, List.cons_append, contents_cons not_mark not_backslash] at hstop
      cases hstop
  · rw [hsame, TokenKind.taken?_of_mark hmark, if_pos hstop] at htaken
    cases htaken

/-- Contents are read alike as long as the token behind them is there. -/
theorem tokenAt?_append_of_mark {mode : Mode} {consumed following rest : List Char}
    {token next : Token}
    (h : tokenAt? mode consumed (token.text ++ (next.text ++ rest)) = some token)
    {mark : Char} (hmark : token.kind.mark? = some mark)
    (hnext : tokenAt? token.after following (next.text ++ rest) = some next) (other : List Char) :
    tokenAt? mode consumed (token.text ++ (next.text ++ other)) = some token := by
  obtain ⟨kind, taken, whole, before, after⟩ := token
  obtain ⟨hbefore, hwhole, hafter, htaken, hearlier⟩ := tokenAt?_eq_some.mp h
  dsimp only at hmark hbefore hwhole hafter htaken hearlier hnext ⊢
  subst hbefore hwhole
  have hbackslash := TokenKind.mark_ne_backslash hmark
  obtain ⟨hstop, hcontents⟩ : contents mark (next.text ++ rest) = [] ∧ IsContents mark taken := by
    obtain ⟨left, htext, hleft⟩ := contents_split mark (taken ++ (next.text ++ rest))
    obtain ⟨-, hsame⟩ := TokenKind.taken?_of_mark_eq_some hmark htaken
    rw [hsame, List.append_cancel_left_eq] at htext
    exact ⟨htext ▸ hleft, hsame ▸ isContents_contents mark _⟩
  have hclosing := head?_of_tokenAt?_of_mark hmark hafter hstop hnext
  have hread (left : List Char) : contents mark (taken ++ (next.text ++ left)) = taken := by
    rw [hclosing]
    exact contents_append hbackslash hcontents (by simp)
  obtain ⟨-, closing, hclosing', hsign, hcloses, honly⟩ := next?_of_mark hmark hafter
  -- Blanks alone would have been read as part of the closing mark.
  have hblank : ∃ c ∈ taken, isBlank c = false := by
    by_contra hall
    have hall : AllBlank taken := by simpa [AllBlank] using hall
    have hnone := hearlier closing hclosing' (by simp [hcloses])
    rw [TokenKind.taken?_of_sign hsign, hclosing, signAt?_blanks hall, List.cons_append,
      signAt?_cons (TokenKind.isBlank_of_sign hsign), if_pos rfl] at hnone
    cases hnone
  refine tokenAt?_eq_some.mpr ⟨rfl, rfl, hafter, ?_, fun other hother hlegal => ?_⟩
  · rw [TokenKind.taken?_of_mark hmark, hread, if_neg (taken?_eq_some htaken).1]
  · rcases honly other hlegal with rfl | rfl
    · have hnone := hearlier other hother hlegal
      rw [TokenKind.taken?_of_sign hsign, signAt?_append hblank] at hnone ⊢
      exact hnone
    · exact absurd (List.mem_takeWhile_imp hother) (by simp)

end NextWord.Filter
