import NextWord.Proofs.Predicate.Lexemes
import NextWord.Proofs.Predicate.ReadingComplete

/-!
# Spacing

Blanks separate the tokens of a predicate and say nothing else. A token stands where its offset says,
and between the tokens of a text there is nothing but blanks. A token that was taken off a text is
also taken off, whole and as the same kind, where a blank or nothing follows it: each kind goes on
only as long as no blank comes, and what it took did not need what stood behind. So the same tokens
with any blanks between them are the same predicate, since the grammar does not look at offsets.
-/

namespace NextWord.Predicate

open Text (isBlank isBlankText isDigit)

section Layout

/-- Tokens stand in a text that begins at an offset: each at its own offset and one behind the
other, with only blanks between them and at both ends. -/
def StandIn : Nat → List Token → List Char → Prop
  | _, [], text => isBlankText text = true
  | offset, t :: tokens, text =>
    ∃ gap rest, isBlankText gap = true ∧ text = gap ++ (t.text.toList ++ rest) ∧
      t.offset = offset + gap.length ∧ StandIn (t.offset + t.text.length) tokens rest

theorem StandIn.blank {c : Char} (hc : isBlank c = true) {offset : Nat} {tokens : List Token}
    {text : List Char} (h : StandIn (offset + 1) tokens text) :
    StandIn offset tokens (c :: text) := by
  cases tokens with
  | nil =>
    rw [StandIn, isBlankText, List.all_cons, hc, Bool.true_and]
    exact h
  | cons t tokens =>
    obtain ⟨gap, rest, hgap, htext, hoffset, hrest⟩ := h
    refine ⟨c :: gap, rest, ?_, ?_, ?_, hrest⟩
    · rw [isBlankText, List.all_cons, hc, Bool.true_and]
      exact hgap
    · rw [htext, List.cons_append]
    · rw [List.length_cons]
      omega

/-- A text made of tokens, each followed by some blanks, behind the blanks at its start. -/
def spaced (start : List Char) (pieces : List (String × List Char)) : List Char :=
  start ++ pieces.flatMap fun piece => piece.1.toList ++ piece.2

/-- Whether the tokens of a text are followed by blanks only, and by one at least where another
token comes. -/
def KeepsApart (pieces : List (String × List Char)) : Prop :=
  (∀ piece ∈ pieces, isBlankText piece.2 = true) ∧ ∀ piece ∈ pieces.dropLast, piece.2 ≠ []

end Layout

section Blanks

def blankCodes : List Nat :=
  List.range' 9 5 ++ List.range' 28 5 ++ List.range' 0x2000 11 ++
    [0x85, 0xa0, 0x1680, 0x2028, 0x2029, 0x202f, 0x205f, 0x3000]

theorem mem_blankCodes {c : Char} (h : isBlank c = true) : c.toNat ∈ blankCodes := by
  simp only [isBlank, Bool.or_eq_true, Bool.and_eq_true, decide_eq_true_eq, beq_iff_eq] at h
  simp only [blankCodes, List.mem_append, List.mem_range'_1, List.mem_cons, List.not_mem_nil,
    or_false]
  omega

/-- No blank is part of a number, of a sign or of a word. -/
theorem ends_of_isBlank {c : Char} (h : isBlank c = true) :
    isDigit c = false ∧ c ≠ '.' ∧ isWordPart c = false ∧ ∀ d, isDoubleSign d c = false := by
  have hall : blankCodes.all (fun n => let c := Char.ofNat n
      !isDigit c && c != '.' && !isWordPart c &&
        ['.', '=', '&', '|'].all (fun d => d != c)) = true := by decide
  have hc := List.all_eq_true.mp hall _ (mem_blankCodes h)
  simp only [Char.ofNat_toNat, Bool.and_eq_true, Bool.not_eq_true', bne_iff_ne,
    List.all_eq_true, List.mem_cons, List.not_mem_nil, or_false] at hc
  obtain ⟨⟨⟨hdigit, hpoint⟩, hword⟩, hsigns⟩ := hc
  refine ⟨hdigit, hpoint, hword, fun d => ?_⟩
  have hne {s : Char} (hs : s = '.' ∨ s = '=' ∨ s = '&' ∨ s = '|') : c ≠ s :=
    Ne.symm (hsigns s hs)
  simp [isDoubleSign, hne]

def Pauses (rest : List Char) : Prop :=
  ∀ c ∈ rest.head?, isBlank c = true

/-- Digits end at a blank, and so do words. -/
theorem Pauses.not_isDigit {rest : List Char} (h : Pauses rest) :
    ∀ c ∈ rest.head?, isDigit c = false :=
  fun c hc => (ends_of_isBlank (h c hc)).1

theorem Pauses.not_isWordPart {rest : List Char} (h : Pauses rest) :
    ∀ c ∈ rest.head?, isWordPart c = false :=
  fun c hc => (ends_of_isBlank (h c hc)).2.2.1

end Blanks

section Alone

variable {c : Char} {rest taken : List Char}

/-- Whether a token is taken off whole wherever a blank or nothing follows it. -/
def StandsAlone (kind : TokenKind) : List Char → Prop
  | [] => False
  | c :: more => ∀ rest, Pauses rest → lexemeAt c (more ++ rest) = .token kind (c :: more)

/-- A fraction is a point with digits behind it, if it is there at all. -/
theorem fractionPart_cases (text : List Char) :
    fractionPart text = [] ∨ ∃ digits rest, digits ≠ [] ∧ (∀ c ∈ digits, isDigit c = true) ∧
      fractionPart text = '.' :: digits ∧ text = '.' :: (digits ++ rest) := by
  rw [fractionPart.eq_def]
  split
  · next rest =>
    split
    · exact .inl rfl
    · next digits hne =>
      refine .inr ⟨_, rest.dropWhile isDigit, hne, fun c hc => List.mem_takeWhile_imp hc, rfl, ?_⟩
      rw [List.takeWhile_append_dropWhile]
  · exact .inl rfl

theorem fractionPart_of_pauses {rest : List Char} (h : Pauses rest) : fractionPart rest = [] := by
  cases rest with
  | nil => rfl
  | cons c rest =>
    have hpoint : c ≠ '.' := (ends_of_isBlank (h c rfl)).2.1
    rw [fractionPart.eq_def]
    split
    · next heq => exact absurd (List.cons.inj heq).1 hpoint
    · rfl

theorem fractionPart_append {digits rest : List Char} (hne : digits ≠ [])
    (hdigits : ∀ c ∈ digits, isDigit c = true) (h : Pauses rest) :
    fractionPart ('.' :: (digits ++ rest)) = '.' :: digits := by
  rw [fractionPart, takeWhile_append_of_head? hdigits h.not_isDigit]
  cases digits with
  | nil => exact absurd rfl hne
  | cons d ds => rfl

theorem exists_number_behind (hblank : isBlank c = false) (hdigit : isDigit c = true)
    (rest : List Char) :
    ∃ more behind, rest = more ++ behind ∧ lexemeAt c rest = .token .number (c :: more) ∧
      StandsAlone .number (c :: more) := by
  have hlexeme (text : List Char) : lexemeAt c text =
      .token .number (c :: text.takeWhile isDigit ++ fractionPart (text.dropWhile isDigit)) := by
    rw [lexemeAt, if_neg (by simp [hblank]), if_pos hdigit]
  have hwhole : ∀ d ∈ rest.takeWhile isDigit, isDigit d = true :=
    fun d hd => List.mem_takeWhile_imp hd
  have hsplit : rest = rest.takeWhile isDigit ++ rest.dropWhile isDigit :=
    List.takeWhile_append_dropWhile.symm
  rcases fractionPart_cases (rest.dropWhile isDigit) with
    hnone | ⟨decimals, behind, hne, hdecimals, hsome, hbehind⟩
  · refine ⟨rest.takeWhile isDigit, rest.dropWhile isDigit, hsplit, ?_, fun other hother => ?_⟩
    · rw [hlexeme, hnone, List.append_nil]
    · rw [hlexeme, takeWhile_append_of_head? hwhole hother.not_isDigit,
        dropWhile_append_of_head? hwhole hother.not_isDigit, fractionPart_of_pauses hother,
        List.append_nil]
  · refine ⟨rest.takeWhile isDigit ++ '.' :: decimals, behind, ?_, ?_, fun other hother => ?_⟩
    · rw [List.append_assoc, List.cons_append, ← hbehind, ← hsplit]
    · rw [hlexeme, hsome, List.cons_append]
    · -- The point ends the digits in front of it, and the blank those behind it.
      have hpoint : ∀ d ∈ ('.' :: (decimals ++ other)).head?, isDigit d = false := by
        rintro d ⟨⟩
        decide
      rw [List.append_assoc, List.cons_append, hlexeme, takeWhile_append_of_head? hwhole hpoint,
        dropWhile_append_of_head? hwhole hpoint, fractionPart_append hne hdecimals hother,
        List.cons_append]

theorem stringRest?_cons {mark : Char} (hc : c ≠ '\\') (rest : List Char) :
    stringRest? mark (c :: rest) =
      if c = mark then some [c] else (stringRest? mark rest).map (c :: ·) :=
  stringRest?.eq_4 mark c rest (fun h _ => hc h) (fun _ _ h _ => hc h)

/-- A string ends at its own mark, whatever follows. -/
theorem stringRest?_append {mark : Char} (h : stringRest? mark rest = some taken) :
    (∃ behind, rest = taken ++ behind) ∧
      ∀ other, stringRest? mark (taken ++ other) = some taken := by
  induction rest using stringRest?.induct mark generalizing taken with
  | case1 => cases h
  | case2 => cases h
  | case3 rest => cases h
  | case4 c rest hbreak ih =>
    rw [stringRest?, if_neg hbreak] at h
    obtain ⟨inner, hinner, rfl⟩ := Option.map_eq_some_iff.mp h
    obtain ⟨⟨behind, rfl⟩, hother⟩ := ih hinner
    refine ⟨⟨behind, rfl⟩, fun other => ?_⟩
    rw [List.cons_append, List.cons_append, stringRest?, if_neg hbreak, hother]
    rfl
  | case5 rest hlast hmore =>
    have hmark : mark ≠ '\\' := by
      intro hmark
      cases rest with
      | nil => exact hlast hmark rfl
      | cons d rest => exact hmore d rest hmark rfl
    rw [stringRest?_cons hmark, if_pos rfl] at h
    obtain rfl := Option.some.inj h
    exact ⟨⟨rest, rfl⟩, fun other => by rw [List.singleton_append, stringRest?_cons hmark, if_pos rfl]⟩
  | case6 c rest hlast hmore hne ih =>
    have hback : c ≠ '\\' := by
      intro hback
      cases rest with
      | nil => exact hlast hback rfl
      | cons d rest => exact hmore d rest hback rfl
    rw [stringRest?_cons hback, if_neg hne] at h
    obtain ⟨inner, hinner, rfl⟩ := Option.map_eq_some_iff.mp h
    obtain ⟨⟨behind, rfl⟩, hother⟩ := ih hinner
    refine ⟨⟨behind, rfl⟩, fun other => ?_⟩
    rw [List.cons_append, stringRest?_cons hback, if_neg hne, hother]
    rfl

theorem not_isDoubleSign_of_pauses (h : Pauses rest) : rest.head?.any (isDoubleSign c) = false := by
  cases rest with
  | nil => rfl
  | cons d rest => exact (ends_of_isBlank (h d rfl)).2.2.2 c

theorem exists_string_behind (hblank : isBlank c = false) (hdigit : isDigit c = false)
    (hmark : c = '\'' ∨ c = '"') {kind : TokenKind} (h : lexemeAt c rest = .token kind taken) :
    ∃ more behind, taken = c :: more ∧ rest = more ++ behind ∧ StandsAlone kind (c :: more) := by
  have hlexeme (text : List Char) : lexemeAt c text =
      (stringRest? c text).elim .none fun taken => .token .string (c :: taken) := by
    rw [lexemeAt, if_neg (by simp [hblank]), if_neg (by simp [hdigit]), if_pos hmark]
    cases stringRest? c text <;> rfl
  rw [hlexeme] at h
  cases hstring : stringRest? c rest with
  | none =>
    rw [hstring] at h
    cases h
  | some more =>
    rw [hstring] at h
    obtain ⟨rfl, rfl⟩ := Lexeme.token.inj h
    obtain ⟨⟨behind, hrest⟩, hother⟩ := stringRest?_append hstring
    refine ⟨more, behind, rfl, hrest, fun other _ => ?_⟩
    rw [hlexeme, hother]
    rfl

theorem exists_sign_or_word_behind (hbegins : BeginsSignOrWord c) {kind : TokenKind}
    (h : lexemeAt c rest = .token kind taken) :
    ∃ more behind, taken = c :: more ∧ rest = more ++ behind ∧ StandsAlone kind (c :: more) := by
  rw [lexemeAt_of_begins hbegins] at h
  split at h
  · next hdouble =>
    obtain ⟨rfl, rfl⟩ := Lexeme.token.inj h
    cases rest with
    | nil => cases hdouble
    | cons d rest =>
      refine ⟨[d], rest, rfl, rfl, fun other _ => ?_⟩
      have hsame : ([d] ++ other).head?.any (isDoubleSign c) = true := hdouble
      rw [lexemeAt_of_begins hbegins, if_pos hsame]
      rfl
  split at h
  · next hsign =>
    obtain ⟨rfl, rfl⟩ := Lexeme.token.inj h
    refine ⟨[], rest, rfl, rfl, fun other hother => ?_⟩
    rw [lexemeAt_of_begins hbegins, List.nil_append, not_isDoubleSign_of_pauses hother,
      if_neg Bool.false_ne_true, if_pos hsign]
  split at h
  · next hsign hstart =>
    obtain ⟨rfl, rfl⟩ := Lexeme.token.inj h
    refine ⟨rest.takeWhile isWordPart, rest.dropWhile isWordPart, rfl,
      List.takeWhile_append_dropWhile.symm, fun other hother => ?_⟩
    obtain ⟨-, -, hdouble⟩ := begins_of_isWordStart hstart
    have hnone : (rest.takeWhile isWordPart ++ other).head?.any (isDoubleSign c) = false := by
      cases (rest.takeWhile isWordPart ++ other).head? <;> simp [hdouble]
    rw [lexemeAt_of_begins hbegins, hnone, if_neg Bool.false_ne_true, if_neg hsign, if_pos hstart,
      takeWhile_append_of_head? (fun d hd => List.mem_takeWhile_imp hd) hother.not_isWordPart]
  · cases h

/-- A token of any kind stands alone. -/
theorem exists_token_behind {kind : TokenKind} (h : lexemeAt c rest = .token kind taken) :
    ∃ more behind, taken = c :: more ∧ rest = more ++ behind ∧ StandsAlone kind (c :: more) := by
  by_cases hblank : isBlank c = true
  · rw [lexemeAt, if_pos hblank] at h
    cases h
  rw [Bool.not_eq_true] at hblank
  by_cases hdigit : isDigit c = true
  · obtain ⟨more, behind, hrest, hlexeme, halone⟩ := exists_number_behind hblank hdigit rest
    obtain ⟨rfl, rfl⟩ := Lexeme.token.inj (h.symm.trans hlexeme)
    exact ⟨more, behind, rfl, hrest, halone⟩
  rw [Bool.not_eq_true] at hdigit
  by_cases hmark : c = '\'' ∨ c = '"'
  · exact exists_string_behind hblank hdigit hmark h
  · obtain ⟨hsingle, hdouble⟩ := not_or.mp hmark
    exact exists_sign_or_word_behind ⟨hblank, hdigit, hsingle, hdouble⟩ h

end Alone

section Scanning

/-- A token as it is written, wherever it stands. -/
def Token.asWritten (t : Token) : TokenKind × String :=
  (t.kind, t.text)

theorem isBlank_of_lexemeAt {c : Char} {rest taken : List Char}
    (h : lexemeAt c rest = .blanks taken) : isBlank c = true := by
  rw [lexemeAt.eq_def] at h
  split at h
  · assumption
  · -- No other kind of lexeme is made of blanks.
    repeat' split at h
    all_goals cases h

/-- What scanning does with the first character of a text: it drops a blank, or takes off a token
that stands alone. -/
theorem scanFrom_cons_eq_ok {c : Char} {rest : List Char} {offset : Nat} {tokens : List Token}
    (h : scanFrom 0 offset (c :: rest) = .ok tokens) :
    (isBlank c = true ∧ scanFrom 0 (offset + 1) rest = .ok tokens) ∨
      ∃ kind more behind others, rest = more ++ behind ∧ StandsAlone kind (c :: more) ∧
        tokens = ⟨kind, String.ofList (c :: more), offset⟩ :: others ∧
        scanFrom 0 (offset + (c :: more).length) behind = .ok others := by
  by_cases hblank : isBlank c = true
  · have hdropped := yields_blank hblank offset rest
    rw [Yields, List.singleton_append, h] at hdropped
    refine .inl ⟨hblank, ?_⟩
    cases hrest : scanFrom 0 (offset + 1) rest with
    | error fault =>
      rw [List.length_singleton, hrest] at hdropped
      cases hdropped
    | ok others =>
      rw [List.length_singleton, hrest] at hdropped
      exact hdropped.symm
  · cases hlexeme : lexemeAt c rest with
    | none =>
      rw [scanFrom, hlexeme] at h
      cases h
    | blanks taken => exact absurd (isBlank_of_lexemeAt hlexeme) hblank
    | token kind taken =>
      obtain ⟨more, behind, rfl, rfl, halone⟩ := exists_token_behind hlexeme
      have htaken := yields_token hlexeme offset
      rw [Yields, List.cons_append, h] at htaken
      cases hrest : scanFrom 0 (offset + (c :: more).length) behind with
      | error fault =>
        rw [hrest] at htaken
        cases htaken
      | ok others =>
        rw [hrest] at htaken
        refine .inr ⟨kind, more, behind, others, rfl, halone, ?_, hrest⟩
        exact Except.ok.inj htaken

/-- Scanned tokens stand in their text, and each of them stands alone. -/
theorem standIn_of_scanFrom {offset : Nat} {text : List Char} {tokens : List Token}
    (h : scanFrom 0 offset text = .ok tokens) :
    StandIn offset tokens text ∧ ∀ t ∈ tokens, StandsAlone t.kind t.text.toList := by
  induction hlength : text.length using Nat.strongRecOn generalizing offset text tokens with
  | ind length ih =>
    subst hlength
    cases text with
    | nil =>
      obtain rfl := Except.ok.inj h
      exact ⟨rfl, by simp⟩
    | cons c rest =>
      rcases scanFrom_cons_eq_ok h with
        ⟨hblank, hrest⟩ | ⟨kind, more, behind, others, rfl, halone, rfl, hrest⟩
      · obtain ⟨hstand, hall⟩ := ih rest.length (by simp) hrest rfl
        exact ⟨hstand.blank hblank, hall⟩
      · have hlength : behind.length < (c :: (more ++ behind)).length := by
          simp only [List.length_cons, List.length_append]
          omega
        obtain ⟨hstand, hall⟩ := ih behind.length hlength hrest rfl
        refine ⟨⟨[], behind, rfl, ?_, rfl, ?_⟩, ?_⟩
        · rw [String.toList_ofList, List.nil_append, List.cons_append]
        · rw [String.length_ofList]
          exact hstand
        · simp only [List.forall_mem_cons, String.toList_ofList]
          exact ⟨halone, hall⟩

theorem yields_blanks {gap : List Char} (h : isBlankText gap = true) (offset : Nat)
    (rest : List Char) : Yields gap offset [] rest := by
  induction gap generalizing offset with
  | nil =>
    rw [Yields, List.nil_append, List.length_nil, Nat.add_zero]
    cases scanFrom 0 offset rest <;> rfl
  | cons c gap ih =>
    rw [isBlankText, List.all_cons, Bool.and_eq_true] at h
    have hfirst := yields_blank h.1 offset (gap ++ rest)
    exact hfirst.append (ih h.2 _)

theorem StandsAlone.yields {t : Token} (h : StandsAlone t.kind t.text.toList) {rest : List Char}
    (hrest : Pauses rest) (offset : Nat) :
    Yields t.text.toList offset [⟨t.kind, t.text, offset⟩] rest := by
  cases htext : t.text.toList with
  | nil =>
    rw [htext] at h
    exact h.elim
  | cons c more =>
    rw [htext] at h
    have htoken := yields_token (h rest hrest) offset
    rw [← htext, String.ofList_toList] at htoken
    rwa [← htext]

theorem KeepsApart.tail {piece : String × List Char} {pieces : List (String × List Char)}
    (h : KeepsApart (piece :: pieces)) : KeepsApart pieces := by
  refine ⟨fun other hother => h.1 other (List.mem_cons_of_mem piece hother), fun other hother => ?_⟩
  apply h.2 other
  cases pieces with
  | nil => cases hother
  | cons next pieces => exact List.mem_cons_of_mem piece hother

/-- Behind a token of a text comes a blank or nothing. -/
theorem KeepsApart.pauses {piece : String × List Char} {pieces : List (String × List Char)}
    (h : KeepsApart (piece :: pieces)) : Pauses (spaced piece.2 pieces) := by
  have hblank := h.1 piece List.mem_cons_self
  intro c hc
  cases hgap : piece.2 with
  | nil =>
    cases pieces with
    | nil =>
      rw [hgap] at hc
      cases hc
    | cons next pieces => exact absurd hgap (h.2 piece List.mem_cons_self)
  | cons d gap =>
    rw [hgap] at hc hblank
    obtain rfl := Option.some.inj hc
    rw [isBlankText, List.all_cons, Bool.and_eq_true] at hblank
    exact hblank.1

/-- Tokens that stand alone are taken off any text that keeps them apart. -/
theorem exists_yields_spaced {tokens : List Token}
    (halone : ∀ t ∈ tokens, StandsAlone t.kind t.text.toList) {start : List Char}
    (hstart : isBlankText start = true) {pieces : List (String × List Char)}
    (htexts : pieces.map Prod.fst = tokens.map Token.text) (hapart : KeepsApart pieces)
    (offset : Nat) :
    ∃ others, Yields (spaced start pieces) offset others [] ∧
      others.map Token.asWritten = tokens.map Token.asWritten := by
  induction pieces generalizing tokens start offset with
  | nil =>
    have hnone : tokens = [] := List.map_eq_nil_iff.mp htexts.symm
    subst hnone
    refine ⟨[], ?_, rfl⟩
    rw [spaced, List.flatMap_nil, List.append_nil]
    exact yields_blanks hstart offset []
  | cons piece pieces ih =>
    obtain ⟨t, tokens, rfl, htext, htexts⟩ := List.map_eq_cons_iff.mp htexts.symm
    obtain ⟨hfirst, halone⟩ := List.forall_mem_cons.mp halone
    obtain ⟨others, hothers, hsame⟩ := ih halone (hapart.1 piece List.mem_cons_self) htexts.symm
      hapart.tail (offset + start.length + t.text.toList.length)
    have hpauses : Pauses (spaced piece.2 pieces ++ []) := by
      rw [List.append_nil]
      exact hapart.pauses
    have htoken := (hfirst.yields hpauses (offset + start.length)).append hothers
    have hall := (yields_blanks hstart offset _).append htoken
    refine ⟨⟨t.kind, t.text, offset + start.length⟩ :: others, ?_, congrArg (t.asWritten :: ·) hsame⟩
    · rw [spaced, List.flatMap_cons, ← htext, List.append_assoc]
      exact hall

end Scanning

section Meaning

theorem exists_of_asWritten_eq {t : Token} {kind : TokenKind} {text : String} {offset : Nat}
    (h : t.asWritten = Token.asWritten ⟨kind, text, offset⟩) : ∃ o, t = ⟨kind, text, o⟩ := by
  obtain ⟨kind', text', o⟩ := t
  obtain ⟨rfl, rfl⟩ := Prod.mk.inj h
  exact ⟨o, rfl⟩

theorem exists_of_map_asWritten_one {us : List Token} {kind : TokenKind} {text : String}
    {offset : Nat} (h : us.map Token.asWritten = [⟨kind, text, offset⟩].map Token.asWritten) :
    ∃ o, us = [⟨kind, text, o⟩] := by
  obtain ⟨t, rest, rfl, ht, hrest⟩ := List.map_eq_cons_iff.mp h
  obtain ⟨o, rfl⟩ := exists_of_asWritten_eq ht
  rw [List.map_eq_nil_iff.mp hrest]
  exact ⟨o, rfl⟩

theorem exists_of_map_asWritten_pair {us : List Token} {kind kind' : TokenKind}
    {text text' : String} {offset offset' : Nat}
    (h : us.map Token.asWritten =
      [⟨kind, text, offset⟩, ⟨kind', text', offset'⟩].map Token.asWritten) :
    ∃ o p, us = [⟨kind, text, o⟩, ⟨kind', text', p⟩] := by
  obtain ⟨t, rest, rfl, ht, hrest⟩ := List.map_eq_cons_iff.mp h
  obtain ⟨o, rfl⟩ := exists_of_asWritten_eq ht
  obtain ⟨p, rfl⟩ := exists_of_map_asWritten_one hrest
  exact ⟨o, p, rfl⟩

theorem exists_of_map_asWritten_enclosed {us ts : List Token} {kind kind' : TokenKind}
    {text text' : String} {offset offset' : Nat}
    (h : us.map Token.asWritten =
      (Token.mk kind text offset :: ts ++ [Token.mk kind' text' offset']).map Token.asWritten) :
    ∃ o p inner, us = ⟨kind, text, o⟩ :: inner ++ [⟨kind', text', p⟩] ∧
      inner.map Token.asWritten = ts.map Token.asWritten := by
  obtain ⟨t, rest, rfl, ht, hrest⟩ := List.map_eq_cons_iff.mp h
  obtain ⟨o, rfl⟩ := exists_of_asWritten_eq ht
  obtain ⟨inner, last, rfl, hinner, hlast⟩ :=
    List.map_eq_append_iff.mp (hrest.trans List.map_append)
  obtain ⟨p, rfl⟩ := exists_of_map_asWritten_one hlast
  exact ⟨o, p, inner, rfl, hinner⟩

/-- A derivation looks at the kinds and texts of tokens only. -/
theorem Derives.congr {s : Symbol} {ts : List Token} {e : Expr} (h : Derives s ts e)
    {us : List Token} (hsame : us.map Token.asWritten = ts.map Token.asWritten) :
    Derives s us e := by
  -- On the derivation: every rule cuts `us` where it cuts the tokens it derives.
  induction h generalizing us with
  | operand _ ih => exact .operand (ih hsame)
  | @operation op ts os vs left right hop _ _ ihleft ihright =>
    rw [List.map_append, List.map_append] at hsame
    obtain ⟨ts', rest, rfl, hts, hrest⟩ := List.map_eq_append_iff.mp hsame
    obtain ⟨os', vs', rfl, hos, hvs⟩ := List.map_eq_append_iff.mp hrest
    have hwrites : Writes op os' := by
      change os'.map Token.asWritten ∈ spellings op
      rw [hos]
      exact hop
    exact .operation hwrites (ihleft hts) (ihright hvs)
  | @prefixed op t ts e hop _ ih =>
    obtain ⟨t', ts', rfl, ht, hts⟩ := List.map_eq_cons_iff.mp hsame
    have hwrites : WritesUnary op t' := by
      change t'.asWritten ∈ unarySpellings op
      rw [ht]
      exact hop
    exact .prefixed hwrites (ih hts)
  | accessed _ ih => exact .accessed (ih hsame)
  | bare _ ih => exact .bare (ih hsame)
  | member _ ih =>
    rw [List.map_append] at hsame
    obtain ⟨ts', rest, rfl, hts, hrest⟩ := List.map_eq_append_iff.mp hsame
    obtain ⟨o, p, rfl⟩ := exists_of_map_asWritten_pair hrest
    exact .member (ih hts)
  | optionalMember _ ih =>
    rw [List.map_append] at hsame
    obtain ⟨ts', rest, rfl, hts, hrest⟩ := List.map_eq_append_iff.mp hsame
    obtain ⟨o, p, rfl⟩ := exists_of_map_asWritten_pair hrest
    exact .optionalMember (ih hts)
  | index _ _ ih ihplace =>
    rw [List.map_append] at hsame
    obtain ⟨ts', rest, rfl, hts, hrest⟩ := List.map_eq_append_iff.mp hsame
    obtain ⟨o, p, us', rfl, hus⟩ := exists_of_map_asWritten_enclosed hrest
    exact .index (ih hts) (ihplace hus)
  | number =>
    obtain ⟨o, rfl⟩ := exists_of_map_asWritten_one hsame
    exact .number
  | string =>
    obtain ⟨o, rfl⟩ := exists_of_map_asWritten_one hsame
    exact .string
  | word hword =>
    obtain ⟨o, rfl⟩ := exists_of_map_asWritten_one hsame
    exact .word hword
  | group _ ih =>
    obtain ⟨o, p, us', rfl, hus⟩ := exists_of_map_asWritten_enclosed hsame
    exact .group (ih hus)
  | emptyArray =>
    obtain ⟨o, p, rfl⟩ := exists_of_map_asWritten_pair hsame
    exact .emptyArray
  | array _ ih =>
    obtain ⟨o, p, us', rfl, hus⟩ := exists_of_map_asWritten_enclosed hsame
    exact .array (ih hus)
  | last _ ih => exact .last (ih hsame)
  | more _ _ ih ihmore =>
    rw [List.map_append] at hsame
    obtain ⟨ts', rest, rfl, hts, hrest⟩ := List.map_eq_append_iff.mp hsame
    obtain ⟨comma, us', rfl, hcomma, hus⟩ := List.map_eq_cons_iff.mp hrest
    obtain ⟨o, rfl⟩ := exists_of_asWritten_eq hcomma
    exact .more (ih hts) (ihmore hus)

end Meaning

/-- The tokens of a text stand where their offsets say, one behind the other, with only blanks
around them; and any other text that is made of the same tokens in order, with blanks between them
and with any blanks at its ends, has tokens of the same kinds and texts and is the same predicate,
or none just like the first. -/
theorem scan_spaced (source : String) (tokens : List Token) (h : scan source.toList = .ok tokens) :
    StandIn 0 tokens source.toList ∧
      ∀ (start : List Char) (pieces : List (String × List Char)), isBlankText start = true →
        KeepsApart pieces → pieces.map Prod.fst = tokens.map Token.text →
        (∃ others, scan (spaced start pieces) = .ok others ∧
          others.map Token.asWritten = tokens.map Token.asWritten) ∧
        ∀ e, parse (String.ofList (spaced start pieces)) = .ok e ↔ parse source = .ok e := by
  obtain ⟨hstand, halone⟩ := standIn_of_scanFrom h
  refine ⟨hstand, fun start pieces hstart hapart htexts => ?_⟩
  obtain ⟨others, hyields, hsame⟩ := exists_yields_spaced halone hstart htexts hapart 0
  have hothers := hyields.scan_eq
  refine ⟨⟨others, hothers, hsame⟩, fun e => ?_⟩
  rw [← String.toList_ofList (l := spaced start pieces)] at hothers
  rw [parse_eq_ok_iff hothers, parse_eq_ok_iff h]
  exact ⟨fun hderives => hderives.congr hsame.symm, fun hderives => hderives.congr hsame⟩

/-- A line break, a tab and an ideographic space come between tokens that stood close together. -/
theorem scan_spaced_close :
    let source := "a<=1.5&&'x  y'not in b?.c"
    let tokens : List Token :=
      [⟨.word, "a", 0⟩, ⟨.sign, "<=", 1⟩, ⟨.number, "1.5", 3⟩, ⟨.sign, "&&", 6⟩,
        ⟨.string, "'x  y'", 8⟩, ⟨.word, "not", 14⟩, ⟨.word, "in", 18⟩, ⟨.word, "b", 21⟩,
        ⟨.sign, "?.", 22⟩, ⟨.word, "c", 24⟩]
    let pieces : List (String × List Char) :=
      [("a", [' ']), ("<=", ['\n']), ("1.5", ['\t', ' ']), ("&&", [' ']), ("'x  y'", ['\u3000']),
        ("not", [' ', '\n']), ("in", [' ']), ("b", [' ']), ("?.", [' ']), ("c", [])]
    scan source.toList = .ok tokens ∧ StandIn 0 tokens source.toList ∧
      (∃ others, scan (spaced ['\t'] pieces) = .ok others ∧
        others.map Token.asWritten = tokens.map Token.asWritten) ∧
      ∀ e, parse (String.ofList (spaced ['\t'] pieces)) = .ok e ↔ parse source = .ok e := by
  intro source tokens pieces
  have hscan : scan source.toList = .ok tokens := eq_ok_of_toOption_eq_some (by decide +kernel)
  have hapart : KeepsApart pieces := ⟨by decide, by decide⟩
  obtain ⟨hstand, hspaced⟩ := scan_spaced source tokens hscan
  obtain ⟨hothers, hparse⟩ := hspaced ['\t'] pieces (by decide) hapart rfl
  exact ⟨hscan, hstand, hothers, hparse⟩

end NextWord.Predicate
