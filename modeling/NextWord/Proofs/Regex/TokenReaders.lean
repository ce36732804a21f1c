import NextWord.Proofs.Outcome
import NextWord.Proofs.Regex.PlainReading

/-!
# Tokens with a dollar behind them

No reader of tokens looks past what it takes by more than a digit or a mark, and a dollar is
neither. So whatever such a reader takes from a text it also takes with a dollar behind the text,
and it leaves the dollar. This holds of readers that are put together from others.
-/

namespace NextWord.Regex

variable {options : RegexOptions} {g after : Groups} {text rest left : List Token} {c : Char}
  {larger fuel : Nat}

section Texts

def withDollar (text : List Token) : List Token :=
  text ++ [.plain '$']

@[simp] theorem withDollar_nil : withDollar [] = [.plain '$'] := rfl

@[simp] theorem withDollar_cons (token : Token) (text : List Token) :
    withDollar (token :: text) = token :: withDollar text :=
  rfl

theorem length_withDollar (text : List Token) : (withDollar text).length = text.length + 1 := by
  rw [withDollar, List.length_append]
  rfl

/-- A token other than the dollar is at the front of the longer text only if it was there before. -/
theorem withDollar_eq_cons_iff {token : Token} (other : token ≠ .plain '$') :
    withDollar text = token :: rest ↔ ∃ more, text = token :: more ∧ withDollar more = rest := by
  cases text with
  | nil => simpa using fun h _ => absurd h.symm other
  | cons first more => simp

theorem withDollar_ne_cons {token : Token} (other : token ≠ .plain '$')
    (h : ∀ more, text = token :: more → False) (more : List Token) :
    withDollar text ≠ token :: more := by
  intro heq
  obtain ⟨before, hbefore, -⟩ := (withDollar_eq_cons_iff other).mp heq
  exact h before hbefore

theorem withDollar_ne_cons_cons {first second : Token} (hfirst : first ≠ .plain '$')
    (hsecond : second ≠ .plain '$') (h : ∀ more, text = first :: second :: more → False)
    (more : List Token) : withDollar text ≠ first :: second :: more := by
  intro heq
  obtain ⟨rest, rfl, hrest⟩ := (withDollar_eq_cons_iff hfirst).mp heq
  obtain ⟨before, rfl, -⟩ := (withDollar_eq_cons_iff hsecond).mp hrest
  exact h before rfl

theorem tokens?_concat_dollar {source : List Char} (h : tokens? source = some text) :
    tokens? (source ++ ['$']) = some (withDollar text) :=
  tokens?_append h rfl

end Texts

/-- Whatever the reader takes, it takes with a dollar behind the text too, and leaves the dollar. -/
def Keeps {α : Type} (read : List Token → Option (α × List Token)) : Prop :=
  ∀ text a left, read text = some (a, left) → read (withDollar text) = some (a, withDollar left)

/-- What is made of the value leaves the rest as it is. -/
theorem map_withDollar {α β : Type} (f : α → β) {read longer : Option (α × List Token)} {b : β}
    (h : (read.map fun (a, left) => (f a, left)) = some (b, left))
    (kept : ∀ a, read = some (a, left) → longer = some (a, withDollar left)) :
    (longer.map fun (a, left) => (f a, left)) = some (b, withDollar left) := by
  obtain ⟨⟨a, behind⟩, ha, heq⟩ := Option.map_eq_some_iff.mp h
  obtain ⟨rfl, rfl⟩ := Prod.mk.inj heq
  rw [kept a ha]
  rfl

namespace Keeps

variable {α β : Type} {read other : List Token → Option (α × List Token)}

theorem found (a : α) : Keeps fun text => some (a, text) := by
  intro text b left h
  obtain ⟨rfl, rfl⟩ := Prod.mk.inj (Option.some.inj h)
  rfl

theorem missing : Keeps fun _ => (none : Option (α × List Token)) := by
  intro text a left h
  cases h

theorem choice {p : Prop} [Decidable p] (hread : Keeps read) (hother : Keeps other) :
    Keeps fun text => if p then read text else other text := by
  by_cases hp : p
  · simpa only [if_pos hp] using hread
  · simpa only [if_neg hp] using hother

theorem map (f : α → β) (hread : Keeps read) :
    Keeps fun text => (read text).map fun (a, left) => (f a, left) := by
  intro text b left h
  exact map_withDollar f h fun a ha => hread text a left ha

end Keeps

section Escapes

variable {isDigit : Char → Bool}

theorem takeDigits_withDollar (mark : isDigit '$' = false) (count : Nat) (text : List Token) :
    takeDigits isDigit count (withDollar text) =
      ((takeDigits isDigit count text).1, withDollar (takeDigits isDigit count text).2) := by
  fun_induction takeDigits isDigit count text with
  | case1 rest count c hc digits left hread ih => simp [takeDigits, hc, hread, ih]
  | case2 rest count c hc => simp [takeDigits, hc]
  | case3 count text not_plain =>
    cases count with
    | zero => rfl
    | succ count =>
      cases text with
      | nil => simp [takeDigits, mark]
      | cons token rest =>
        cases token with
        | plain c => exact (not_plain _ _ _ rfl rfl).elim
        | escaped c => rfl

/-- A text has no more digits than tokens. -/
theorem takeDigits_of_length_le {count : Nat} (h : text.length ≤ count) :
    takeDigits isDigit (count + 1) text = takeDigits isDigit count text := by
  induction text generalizing count with
  | nil => cases count <;> rfl
  | cons token rest ih =>
    obtain ⟨count, rfl⟩ := Nat.exists_eq_add_one_of_ne_zero (Nat.ne_of_gt (Nat.zero_lt_of_lt h))
    cases token with
    | plain c => rw [takeDigits, takeDigits, ih (Nat.le_of_succ_le_succ h)]
    | escaped c => rfl

theorem takeDigits_length_withDollar (mark : isDigit '$' = false) (text : List Token) :
    takeDigits isDigit (withDollar text).length (withDollar text) =
      ((takeDigits isDigit text.length text).1,
        withDollar (takeDigits isDigit text.length text).2) := by
  rw [takeDigits_withDollar mark, length_withDollar, takeDigits_of_length_le (Nat.le_refl _)]

/-- A reader that takes digits and decides by them. -/
theorem keeps_digits {α : Type} (mark : isDigit '$' = false) (count : Nat)
    (p : List Char → Prop) [DecidablePred p] (f : List Char → α) :
    Keeps fun text =>
      let (digits, left) := takeDigits isDigit count text
      if p digits then some (f digits, left) else none := by
  intro text a left h
  dsimp only at h ⊢
  rw [takeDigits_withDollar mark]
  split at h
  · next hdigits =>
    obtain ⟨rfl, rfl⟩ := Prod.mk.inj (Option.some.inj h)
    rw [if_pos hdigits]
  · cases h

theorem keeps_hexCode (width : Nat) : Keeps (hexCode? width) :=
  keeps_digits rfl width
    (fun digits => digits.length = width ∧ Text.numeral 16 digits < 0x110000) (Text.numeral 16)

theorem keeps_nameUpTo (mark : Char) : Keeps (nameUpTo? mark) := by
  intro text
  induction text with
  | nil =>
    intro name left h
    cases h
  | cons token rest ih =>
    intro name left h
    cases token with
    | escaped c => cases h
    | plain c =>
      rw [withDollar_cons, nameUpTo?] at *
      split at h
      · next hmark =>
        obtain ⟨rfl, rfl⟩ := Prod.mk.inj (Option.some.inj h)
        rw [if_pos hmark]
      · next hmark =>
        obtain ⟨others, hothers, rfl⟩ := exists_of_map_append [c] h
        rw [if_neg hmark, ih _ _ hothers]
        rfl

theorem keeps_namedCode : Keeps namedCode? := by
  intro text n left h
  unfold namedCode? at h
  split at h
  · split at h
    · next name behind hname =>
      obtain ⟨code, hcode, heq⟩ := Option.map_eq_some_iff.mp h
      obtain ⟨rfl, rfl⟩ := Prod.mk.inj heq
      simp [namedCode?, keeps_nameUpTo _ _ _ _ hname, hcode]
    · cases h
  · cases h

theorem keeps_codeEscape (c : Char) : Keeps (codeEscape? c) :=
  .choice (keeps_hexCode 2) <| .choice (keeps_hexCode 4) <| .choice (keeps_hexCode 8) <|
    .choice keeps_namedCode <| .choice .missing (.found c.toNat)

end Escapes

section Sets

theorem keeps_setEscape (c : Char) : Keeps (setEscape? c) := by
  refine .choice (.found (SetItem.code 8)) ?_
  cases controlEscape? c with
  | some n => exact .found (SetItem.code n)
  | none =>
    cases classEscape? c with
    | some item => exact .found item
    | none =>
      refine .choice ?_ ((keeps_codeEscape c).map SetItem.code)
      exact keeps_digits rfl 2 (fun digits => Text.numeral 8 (c :: digits) ≤ 0o377)
        fun digits => SetItem.code (Text.numeral 8 (c :: digits))

theorem keeps_setMember : Keeps setMember? := by
  intro text item left h
  cases text with
  | nil => cases h
  | cons token rest =>
    cases token with
    | plain c => exact Keeps.found _ _ _ _ h
    | escaped c => exact keeps_setEscape c _ _ _ h

/-- Members of a set, whatever bounds their number. -/
theorem setMembers?_withDollar {first : Bool} {items : List SetItem}
    (h : setMembers? fuel first text = some (items, left)) (more : fuel ≤ larger) :
    setMembers? larger first (withDollar text) = some (items, withDollar left) := by
  induction fuel generalizing larger first text items with
  | zero => cases h
  | succ fuel ih =>
    obtain ⟨larger, rfl⟩ := Nat.exists_eq_add_one_of_ne_zero (Nat.ne_of_gt (Nat.zero_lt_of_lt more))
    have goes_on {rest : List Token} (others : List SetItem)
        (h : setMembers? fuel false rest = some (others, left)) :
        setMembers? larger false (withDollar rest) = some (others, withDollar left) :=
      ih h (Nat.le_of_succ_le_succ more)
    unfold setMembers? at h
    split at h
    · obtain ⟨rfl, rfl⟩ := Prod.mk.inj (Option.some.inj h)
      rw [withDollar_cons, setMembers?]
    next open_ =>
    rw [setMembers?]
    · split at h
      · cases h
      · next low rest hlow =>
        obtain ⟨rfl, rfl⟩ := Prod.mk.inj (Option.some.inj h)
        simp [keeps_setMember _ _ _ hlow]
      · next low rest not_closed hlow =>
        have hrest := withDollar_ne_cons (by decide) not_closed
        split at h
        · next m n behind hhigh =>
          split at h
          · next ordered =>
            have hothers := map_withDollar (.range m n :: ·) h goes_on
            simp [keeps_setMember _ _ _ hlow, keeps_setMember _ _ _ hhigh, ordered, hothers]
          · cases h
        · cases h
      · next item rest not_last not_hyphen hitem =>
        have hothers := map_withDollar (item :: ·) h goes_on
        have hrest := withDollar_ne_cons (by decide) not_hyphen
        simp [keeps_setMember _ _ _ hitem, hrest, hothers]
    · exact fun rest hfirst => withDollar_ne_cons (by decide) (fun more => open_ more hfirst) rest

theorem keeps_set (options : RegexOptions) : Keeps (set? options) := by
  intro text test left h
  have members {rest : List Token} (items : List SetItem)
      (h : setMembers? (rest.length + 1) true rest = some (items, left)) :
      setMembers? ((withDollar rest).length + 1) true (withDollar rest) =
        some (items, withDollar left) :=
    setMembers?_withDollar h (by rw [length_withDollar]; omega)
  by_cases hcomplement : ∃ rest, text = .plain '^' :: rest
  · obtain ⟨rest, rfl⟩ := hcomplement
    exact map_withDollar (CharTest.ofItems options true) h members
  · rw [set?] at h ⊢
    · exact map_withDollar (CharTest.ofItems options false) h members
    · exact withDollar_ne_cons (by decide) fun rest hcaret => hcomplement ⟨rest, hcaret⟩
    · exact fun rest hcaret => hcomplement ⟨rest, hcaret⟩

end Sets

section Pieces

theorem keeps_digitEscape (options : RegexOptions) (g : Groups) (c : Char) :
    Keeps (digitEscape? options g c) := by
  intro text piece left h
  have reference {n : Nat} {rest : List Token}
      (h : ((groupPiece? options g n).map fun piece => (piece, rest)) = some (piece, left)) :
      ((groupPiece? options g n).map fun piece => (piece, withDollar rest)) =
        some (piece, withDollar left) := by
    obtain ⟨found, hfound, heq⟩ := Option.map_eq_some_iff.mp h
    obtain ⟨rfl, rfl⟩ := Prod.mk.inj heq
    rw [hfound]
    rfl
  unfold digitEscape? at h ⊢
  split at h
  · next hnought =>
    rw [if_pos hnought, takeDigits_withDollar rfl]
    obtain ⟨rfl, rfl⟩ := Prod.mk.inj (Option.some.inj h)
    rfl
  next hnought =>
  rw [if_neg hnought, takeDigits_withDollar rfl]
  generalize takeDigits Char.isDigit 1 text = taken at h ⊢
  rcases taken with ⟨_ | ⟨d, _ | _⟩, behind⟩
  · exact reference h
  · dsimp only at h ⊢
    rw [takeDigits_withDollar rfl]
    generalize takeDigits isOctalDigit 1 behind = more at h ⊢
    rcases more with ⟨_ | ⟨e, _ | _⟩, last⟩
    · exact reference h
    · dsimp only at h ⊢
      split at h
      · next hoctal =>
        rw [if_pos hoctal]
        split at h
        · next hbound =>
          obtain ⟨rfl, rfl⟩ := Prod.mk.inj (Option.some.inj h)
          rw [if_pos hbound]
        · cases h
      · next hoctal =>
        rw [if_neg hoctal]
        exact reference h
    · exact reference h
  · exact reference h

theorem keeps_escape (options : RegexOptions) (g : Groups) (c : Char) :
    Keeps (escape? options g c) := by
  refine .choice (.found _) <| .choice (.found _) <| .choice (.found _) <| .choice (.found _) ?_
  cases classEscape? c with
  | some item => exact .found _
  | none =>
    cases controlEscape? c with
    | some n => exact .found _
    | none => exact .choice (keeps_digitEscape options g c) ((keeps_codeEscape c).map _)

end Pieces

section Repetition

theorem bounds?_withDollar (text : List Token) :
    bounds? (withDollar text) =
      (bounds? text).map fun (low, high, left) => (low, high, withDollar left) := by
  by_cases hclose : ∃ rest, text = .plain '\x7d' :: rest
  · obtain ⟨rest, rfl⟩ := hclose
    rfl
  rw [bounds?, bounds?, takeDigits_length_withDollar rfl]
  · rcases takeDigits Char.isDigit text.length text with ⟨low, _ | ⟨_ | _, rest⟩⟩
    · rfl
    · next c =>
      dsimp only [withDollar_cons]
      by_cases hcomma : c = ','
      · subst hcomma
        have hhigh := takeDigits_length_withDollar (show Char.isDigit '$' = false from rfl) rest
        simp only [hhigh]
        rcases takeDigits Char.isDigit rest.length rest with ⟨high, _ | ⟨_ | _, behind⟩⟩
        · rfl
        · next last =>
          by_cases hlast : last = '\x7d'
          · subst hlast
            rfl
          · simp [hlast]
        · rfl
      · by_cases hlast : c = '\x7d'
        · subst hlast
          rfl
        · simp [hcomma, hlast]
    · rfl
  · exact fun rest h => hclose ⟨rest, h⟩
  · exact withDollar_ne_cons (by decide) fun rest h => hclose ⟨rest, h⟩

def Quantifier.withDollar : Quantifier → Quantifier
  | .rounds least most rest => .rounds least most (Regex.withDollar rest)
  | .brace => .brace
  | .fault f => .fault f

theorem quantifier_withDollar (c : Char) (rest : List Token) :
    quantifier c (withDollar rest) = (quantifier c rest).withDollar := by
  unfold quantifier
  iterate 3
    split
    · rfl
  rw [bounds?_withDollar]
  cases bounds? rest with
  | none => rfl
  | some found =>
    dsimp only [Option.map_some]
    iterate 4
      split
      · rfl
    rfl

theorem greed_withDollar (text : List Token) :
    greed (withDollar text) = ((greed text).1, withDollar (greed text).2) := by
  fun_cases greed text with
  | case1 rest => rfl
  | case2 rest => rfl
  | case3 text not_lazy not_possessive =>
    rw [greed]
    · exact withDollar_ne_cons (by decide) not_lazy
    · exact withDollar_ne_cons (by decide) not_possessive

end Repetition

section Openings

theorem optionLetters?_withDollar {ends : List Char} {o found : OptionLetters} {mark : Char}
    (h : optionLetters? ends o text = some (found, mark, left)) :
    optionLetters? ends o (withDollar text) = some (found, mark, withDollar left) := by
  fun_induction optionLetters? ends o text with
  | case1 o c rest hend =>
    obtain ⟨rfl, heq⟩ := Prod.mk.inj (Option.some.inj h)
    obtain ⟨rfl, rfl⟩ := Prod.mk.inj heq
    rw [withDollar_cons, optionLetters?, if_pos hend]
  | case2 o c rest hend next hnext ih =>
    rw [withDollar_cons, optionLetters?, if_neg hend, hnext]
    exact ih h
  | case3 => cases h
  | case4 => cases h

theorem keeps_optionChange (options : RegexOptions) : Keeps (optionChange? options) := by
  intro text changed left h
  unfold optionChange? at h
  split at h
  · next on rest hon =>
    obtain ⟨rfl, rfl⟩ := Prod.mk.inj (Option.some.inj h)
    simp [optionChange?, optionLetters?_withDollar hon]
  · next on rest hon =>
    split at h
    · cases h
    next open_ =>
    split at h
    · next off mark behind hoff =>
      split at h
      · cases h
      · next meets =>
        obtain ⟨rfl, rfl⟩ := Prod.mk.inj (Option.some.inj h)
        have hrest := withDollar_ne_cons (by decide) open_
        simp [optionChange?, optionLetters?_withDollar hon, optionLetters?_withDollar hoff,
          meets]
    · cases h
  · cases h

theorem afterComment?_withDollar (h : afterComment? text = some left) :
    afterComment? (withDollar text) = some (withDollar left) := by
  fun_induction afterComment? text with
  | case1 => cases h
  | case2 rest =>
    obtain rfl := Option.some.inj h
    rfl
  | case3 token rest not_closing ih =>
    rw [withDollar_cons, afterComment?]
    · exact ih h
    · exact not_closing

def Opening.withDollar : Opening → Opening
  | .comment rest => .comment (Regex.withDollar rest)
  | .reference n rest => .reference n (Regex.withDollar rest)
  | .group name rest => .group name (Regex.withDollar rest)
  | .plain rest => .plain (Regex.withDollar rest)
  | .withOptions options rest => .withOptions options (Regex.withDollar rest)
  | .atomic rest => .atomic (Regex.withDollar rest)
  | .ahead positive rest => .ahead positive (Regex.withDollar rest)
  | .behind positive rest => .behind positive (Regex.withDollar rest)
  | .ifGroup n numbered rest => .ifGroup n numbered (Regex.withDollar rest)

theorem opening?_withDollar {opening : Opening} (h : opening? options g text = some opening) :
    opening? options g (withDollar text) = some opening.withDollar := by
  unfold opening? at h
  split at h
  · split at h
    · next name behind hname =>
      split at h
      · next identifier =>
        obtain rfl := Option.some.inj h
        simp [opening?, keeps_nameUpTo _ _ _ _ hname, identifier, Opening.withDollar]
      · cases h
    · cases h
  · split at h
    · next name behind hname =>
      obtain ⟨n, hn, rfl⟩ := Option.map_eq_some_iff.mp h
      simp [opening?, keeps_nameUpTo _ _ _ _ hname, hn, Opening.withDollar]
    · cases h
  · obtain rfl := Option.some.inj h
    rfl
  · obtain ⟨behind, hbehind, rfl⟩ := Option.map_eq_some_iff.mp h
    simp [opening?, afterComment?_withDollar hbehind, Opening.withDollar]
  iterate 5
    · obtain rfl := Option.some.inj h
      rfl
  · split at h
    · next name behind hname =>
      obtain ⟨⟨n, numbered⟩, hn, rfl⟩ := Option.map_eq_some_iff.mp h
      simp [opening?, keeps_nameUpTo _ _ _ _ hname, hn, Opening.withDollar]
    · cases h
  · next rest named reference plain comment ahead notAhead behind notBehind atomic ifGroup =>
    obtain ⟨⟨changed, behind⟩, hchanged, rfl⟩ := Option.map_eq_some_iff.mp h
    rw [withDollar_cons, opening?, keeps_optionChange options _ _ _ hchanged]
    · rfl
    -- The other forms start with one mark or two.
    all_goals first
      | exact withDollar_ne_cons (by decide) (by assumption)
      | exact withDollar_ne_cons_cons (by decide) (by decide) (by assumption)
  · next named reference plain comment ahead notAhead behind notBehind atomic ifGroup changed =>
    obtain rfl := Option.some.inj h
    rw [opening?]
    · rfl
    all_goals
      intro behind hmark
      obtain ⟨more, rfl, -⟩ := (withDollar_eq_cons_iff (by decide)).mp hmark
      exact changed more rfl

end Openings

end NextWord.Regex
