import NextWord.Predicate.Token

/-!
# What scanned tokens look like

Words start with a letter, an underscore or a dollar sign; signs are one or two punctuation marks.
The two never share a text, so a reader that looks for a text alone finds a token of one kind only.
-/

namespace NextWord.Predicate

def isWordText (text : String) : Bool :=
  match text.toList with
  | c :: rest => isWordStart c && rest.all isWordPart
  | [] => false

def isSignText (text : String) : Bool :=
  match text.toList with
  | [c] => isSign c
  | [c, d] => isDoubleSign c d
  | _ => false

namespace Token

def isProper (t : Token) : Bool :=
  match t.kind with
  | .word => isWordText t.text
  | .sign => isSignText t.text
  | _ => true

end Token

theorem lexemeAt_isProper {c : Char} {rest taken : List Char} {kind : TokenKind}
    (h : lexemeAt c rest = .token kind taken) (offset : Nat) :
    (Token.mk kind (String.ofList taken) offset).isProper = true := by
  simp only [lexemeAt] at h
  split at h
  · cases h
  split at h
  · cases h; rfl
  split at h
  · split at h
    · cases h; rfl
    · cases h
  split at h
  · next hdouble =>
    cases h
    cases rest with
    | nil => simp at hdouble
    | cons d rest => simpa [Token.isProper, isSignText] using hdouble
  split at h
  · next hsign =>
    cases h
    simpa [Token.isProper, isSignText] using hsign
  split at h
  · next hword =>
    cases h
    simp [Token.isProper, isWordText, hword]
  · cases h

theorem scanFrom_isProper {skip offset : Nat} {text : List Char} {tokens : List Token}
    (h : scanFrom skip offset text = .ok tokens) : ∀ t ∈ tokens, t.isProper = true := by
  induction text generalizing skip offset tokens with
  | nil =>
    have hnil : tokens = [] := by
      cases skip <;> simpa [scanFrom] using h.symm
    intro t ht
    rw [hnil] at ht
    exact absurd ht List.not_mem_nil
  | cons c rest ih =>
    cases skip with
    | succ skip => exact ih (by simpa [scanFrom] using h)
    | zero =>
      rw [scanFrom] at h
      split at h
      · cases h
      · exact ih h
      · next kind taken hlexeme =>
        split at h
        · next more hmore =>
          cases h
          intro t ht
          rcases List.mem_cons.mp ht with rfl | ht
          · exact lexemeAt_isProper hlexeme offset
          · exact ih hmore t ht
        · cases h

/-- All tokens of a text are proper. -/
theorem scan_isProper {text : List Char} {tokens : List Token} (h : scan text = .ok tokens) :
    ∀ t ∈ tokens, t.isProper = true :=
  scanFrom_isProper h

theorem Token.kind_eq_word {kind : TokenKind} {text : String} {offset : Nat}
    (hproper : (Token.mk kind text offset).isProper = true) (hkind : kind = .sign ∨ kind = .word)
    (htext : isSignText text = false) : kind = .word := by
  rcases hkind with rfl | rfl
  · exact absurd hproper (by simp [isProper, htext])
  · rfl

theorem Token.kind_eq_sign {kind : TokenKind} {text : String} {offset : Nat}
    (hproper : (Token.mk kind text offset).isProper = true) (hkind : kind = .sign ∨ kind = .word)
    (htext : isWordText text = false) : kind = .sign := by
  rcases hkind with rfl | rfl
  · rfl
  · exact absurd hproper (by simp [isProper, htext])

/-- Whatever starts a word may also continue one. -/
theorem isWordPart_of_mem {text : String} (h : isWordText text = true) {c : Char}
    (hmem : c ∈ text.toList) : isWordPart c = true := by
  have hstart {c : Char} (h : isWordStart c = true) : isWordPart c = true := by
    simp only [isWordStart, Bool.or_eq_true] at h
    simp only [isWordPart, Char.isAlphanum, Bool.or_eq_true]
    exact h.imp_left fun h => h.imp_left Or.inl
  rw [isWordText] at h
  split at h
  · next first rest heq =>
    rw [Bool.and_eq_true, List.all_eq_true] at h
    rw [heq] at hmem
    rcases List.mem_cons.mp hmem with rfl | hmem
    · exact hstart h.1
    · exact h.2 c hmem
  · cases h

/-- A word has no bracket in it. -/
theorem not_mem_of_isWordText {text : String} (h : isWordText text = true) : '[' ∉ text.toList := by
  intro hmem
  exact absurd (isWordPart_of_mem h hmem) (by decide)

end NextWord.Predicate
