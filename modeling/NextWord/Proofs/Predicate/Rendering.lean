import NextWord.Proofs.Predicate.Induction
import NextWord.Proofs.Predicate.Lexemes
import NextWord.Proofs.Predicate.ReadingComplete

/-!
# Writing predicates

A predicate is written with parentheses around an operand exactly where the operand is looser than
its place allows. Places and expressions are ranked alike: the levels of infix operations from the
loosest on, then prefix operations, then what stands behind no operation at all. A left operand may
be of the level of its operation, a right one has to be tighter; elements of an array, indices and
whole predicates may be anything.

Main statement: what is written is read as the predicate that it was written from.
-/

namespace NextWord

namespace Expr

/-- The rank of what may stand behind an operation in front. -/
def prefixRank : Nat := 5

def targetRank : Nat := 6

/-- How tightly an expression holds together. -/
def rank : Expr → Nat
  | .binary op _ _ => op.level.rank
  | .unary _ _ => prefixRank
  | _ => targetRank

def enclosed (place : Nat) (e : Expr) (text : List Char) : List Char :=
  if e.rank < place then '(' :: (text ++ [')']) else text

def constantText : Value → List Char
  | .str text => Predicate.quotedString text
  | .int i => Text.writeInt i
  | .bool b => (if b then "true" else "false").toList
  | .null => "nil".toList
  | v => v.written.toList

mutual

def renderChars : Expr → List Char
  | .literal v => constantText v
  | .array items => '[' :: (renderItems items ++ [']'])
  | .name text => text.toList
  | .member target field isOptional =>
    enclosed targetRank target (renderChars target) ++
      ((if isOptional then ['?', '.'] else ['.']) ++ field.toList)
  | .index target place _ =>
    enclosed targetRank target (renderChars target) ++ ('[' :: (renderChars place ++ [']']))
  | .unary op operand => op.text.toList ++ enclosed prefixRank operand (renderChars operand)
  | .binary op left right =>
    enclosed op.level.rank left (renderChars left) ++
      (' ' :: (op.text.toList ++ ' ' :: enclosed (op.level.rank + 1) right (renderChars right)))

def renderItems : List Expr → List Char
  | [] => []
  | [e] => renderChars e
  | e :: es => renderChars e ++ (',' :: ' ' :: renderItems es)

end

def render (e : Expr) : String :=
  String.ofList (renderChars e)

/-- Words that name no attribute: they stand for constants or for a negation. -/
def reservedWords : List String :=
  ["true", "false", "nil", "null", "not"]

/-- Expressions that predicates can write: no fractions, no negative numbers and no lists or objects
among the constants, names that are words, and no optional access to an element. -/
inductive Writable : Expr → Prop
  | int (n : Nat) : Writable (.literal (.int n))
  | str (text : String) : Writable (.literal (.str text))
  | bool (b : Bool) : Writable (.literal (.bool b))
  | null : Writable (.literal .null)
  | array {items : List Expr} (h : ∀ e ∈ items, Writable e) : Writable (.array items)
  | name {text : String} (isWord : Predicate.isWordText text = true)
      (free : text ∉ reservedWords) : Writable (.name text)
  | member {target : Expr} {field : String} {isOptional : Bool} (h : Writable target)
      (isWord : Predicate.isWordText field = true) : Writable (.member target field isOptional)
  | index {target place : Expr} (h : Writable target) (hplace : Writable place) :
      Writable (.index target place false)
  | unary {op : UnaryOp} {operand : Expr} (h : Writable operand) : Writable (.unary op operand)
  | binary {op : BinaryOp} {left right : Expr} (hleft : Writable left) (hright : Writable right) :
      Writable (.binary op left right)

end Expr

namespace Predicate

open NextWord.Expr (Writable enclosed renderChars renderItems prefixRank targetRank)

def Symbol.ofRank : Nat → Symbol
  | 0 => .level .either
  | 1 => .level .both
  | 2 => .level .equality
  | 3 => .level .relation
  | 4 => .level .sum
  | 5 => .unary
  | _ => .chain

theorem Symbol.ofRank_rank (l : Level) : ofRank l.rank = .level l := by
  cases l <;> rfl

theorem Symbol.ofRank_rank_succ (l : Level) : ofRank (l.rank + 1) = operandOf l := by
  cases l <;> rfl

/-- What a tighter place allows may stand at a looser one. -/
theorem Derives.looser {place rank : Nat} (hle : place ≤ rank) {ts : List Token} {e : Expr}
    (h : Derives (.ofRank rank) ts e) : Derives (.ofRank place) ts e := by
  have hstep (n : Nat) (h : Derives (.ofRank (n + 1)) ts e) : Derives (.ofRank n) ts e := by
    match n with
    | 0 => exact .operand h
    | 1 => exact .operand h
    | 2 => exact .operand h
    | 3 => exact .operand h
    | 4 => exact .operand h
    | 5 => exact .accessed h
    | _ + 6 => exact h
  induction rank, hle using Nat.le_induction with
  | base => exact h
  | succ n _ ih => exact ih (hstep n h)

def Ends (rest : List Char) : Prop :=
  (∀ c ∈ rest.head?, isWordPart c = false ∧ Text.isDigit c = false) ∧ fractionPart rest = []

theorem ends_nil : Ends [] := by
  simp [Ends, fractionPart]

theorem ends_delimiter {c : Char} (h : c ∈ [')', ']', '[', '?', ',', ' ']) (rest : List Char) :
    Ends (c :: rest) := by
  have hdelimiters : [')', ']', '[', '?', ',', ' '].all (fun c =>
      !isWordPart c && !Text.isDigit c && c != '.') = true := by decide
  have hc := List.all_eq_true.mp hdelimiters c h
  simp only [Bool.and_eq_true, Bool.not_eq_true', bne_iff_ne] at hc
  obtain ⟨⟨hword, hdigit⟩, hpoint⟩ := hc
  refine ⟨by simp [hword, hdigit], ?_⟩
  rw [fractionPart.eq_def]
  split
  · next heq => exact absurd (List.cons.inj heq).1 hpoint
  · rfl

/-- A point ends a number if a word follows it. -/
theorem ends_point {field : String} (h : isWordText field = true) (rest : List Char) :
    Ends ('.' :: (field.toList ++ rest)) := by
  refine ⟨by simp; decide, ?_⟩
  rw [isWordText] at h
  split at h
  · next c more hfield =>
    have hdigit := isDigit_of_isWordStart (Bool.and_eq_true_iff.mp h).1
    simp [fractionPart, hfield, hdigit]
  · cases h

/-- A text is read as an expression wherever it stands, unless its last word or number goes on. It
begins with no equals sign, so that an exclamation mark in front of it stays alone. -/
structure ReadAs (place : Nat) (text : List Char) (e : Expr) : Prop where
  begins : ∃ c more, text = c :: more ∧ c ≠ '='
  reads : ∀ offset rest, Ends rest →
    ∃ tokens, Yields text offset tokens rest ∧ Derives (.ofRank place) tokens e

theorem ReadAs.looser {place rank : Nat} {text : List Char} {e : Expr} (h : ReadAs rank text e)
    (hle : place ≤ rank) : ReadAs place text e where
  begins := h.begins
  reads := by
    intro offset rest hrest
    obtain ⟨tokens, hyields, hderives⟩ := h.reads offset rest hrest
    exact ⟨tokens, hyields, hderives.looser hle⟩

theorem yields_bracket {c : Char} (h : c ∈ ['(', ')', '[', ']', ',', '.', '-']) (offset : Nat)
    (rest : List Char) : Yields [c] offset [⟨.sign, String.ofList [c], offset⟩] rest := by
  have hbrackets : ['(', ')', '[', ']', ',', '.', '-'].all (fun c =>
      isSign c && !(['?', '=', '!', '<', '>', '&', '|'].contains c)) = true := by decide
  have hc := List.all_eq_true.mp hbrackets c h
  rw [Bool.and_eq_true] at hc
  obtain ⟨hsign, hsingle⟩ := hc
  refine yields_sign hsign ?_ offset
  simp only [Bool.not_eq_true', List.contains_eq_mem, decide_eq_false_iff_not, List.mem_cons,
    List.not_mem_nil, or_false, not_or] at hsingle
  cases rest.head? with
  | none => rfl
  | some d => simp [isDoubleSign, hsingle]

section Operations

theorem yields_signText {text : String} (h : isSignText text = true) (offset : Nat)
    (rest : List Char) :
    Yields text.toList offset [⟨.sign, text, offset⟩] (' ' :: rest) := by
  rw [isSignText] at h
  split at h
  · next c htext =>
    have hyields : Yields [c] offset [⟨.sign, String.ofList [c], offset⟩] (' ' :: rest) :=
      yields_sign h (by simp [isDoubleSign]) offset
    rwa [← htext, String.ofList_toList] at hyields
  · next c d htext =>
    have hyields := yields_doubleSign h offset (' ' :: rest)
    rwa [← htext, String.ofList_toList] at hyields
  · cases h

theorem yields_wordText {text : String} (h : isWordText text = true) (offset : Nat)
    (rest : List Char) :
    Yields text.toList offset [⟨.word, text, offset⟩] (' ' :: rest) :=
  yields_word h (by simp; decide) offset

/-- All infix operations but `not in` are written as one token. -/
theorem text_mem_spellings (op : BinaryOp) : op = .notMember ∨
    (isSignText op.text = true ∧ [(.sign, op.text)] ∈ spellings op) ∨
    (isWordText op.text = true ∧ [(.word, op.text)] ∈ spellings op) := by
  cases op <;> decide

/-- The text of an infix operation in front of a blank is taken as the tokens that write it. -/
theorem exists_yields_binary (op : BinaryOp) (offset : Nat) (rest : List Char) :
    ∃ os, Writes op os ∧ Yields op.text.toList offset os (' ' :: rest) := by
  rcases text_mem_spellings op with rfl | ⟨hsign, hspells⟩ | ⟨hword, hspells⟩
  · have hnot := yields_wordText (show isWordText "not" = true by decide) offset
      ("in".toList ++ ' ' :: rest)
    have hin := yields_wordText (show isWordText "in" = true by decide) (offset + 3 + 1) rest
    refine ⟨[⟨.word, "not", offset⟩, ⟨.word, "in", offset + 3 + 1⟩], ?_, hnot.spaced hin⟩
    simp [Writes, spellings]
  · exact ⟨[⟨.sign, op.text, offset⟩], hspells, yields_signText hsign offset rest⟩
  · exact ⟨[⟨.word, op.text, offset⟩], hspells, yields_wordText hword offset rest⟩

/-- The text of an operation in front is taken as the token that writes it, unless an equals sign
follows. -/
theorem exists_yields_unary (op : UnaryOp) (offset : Nat) {c : Char} (h : c ≠ '=')
    (rest : List Char) :
    ∃ t, WritesUnary op t ∧ Yields op.text.toList offset [t] (c :: rest) := by
  cases op with
  | not =>
    have hsign : Yields ['!'] offset [⟨.sign, "!", offset⟩] (c :: rest) :=
      yields_sign (by decide) (by simp [isDoubleSign, h]) offset
    exact ⟨⟨.sign, "!", offset⟩, by simp [WritesUnary, unarySpellings], hsign⟩
  | neg =>
    have hsign := yields_bracket (show '-' ∈ _ by decide) offset (c :: rest)
    exact ⟨⟨.sign, "-", offset⟩, by simp [WritesUnary, unarySpellings], hsign⟩

end Operations

section Operands

variable {text other : List Char} {e target place left right operand : Expr} {field : String}

theorem readAs_word (word : String) (hword : isWordText word = true) (hnot : word ≠ "not") :
    ReadAs targetRank word.toList (wordOperand word) where
  begins := by
    rw [isWordText] at hword
    split at hword
    · next c more hmore =>
      refine ⟨c, more, hmore, ?_⟩
      rintro rfl
      exact absurd (Bool.and_eq_true_iff.mp hword).1 (by decide)
    · cases hword
  reads offset rest hrest :=
    ⟨_, yields_word hword (fun c hc => (hrest.1 c hc).1) offset, .bare (.word hnot)⟩

theorem readAs_int (n : Nat) :
    ReadAs targetRank (Text.writeNat n) (.literal (.int n)) where
  begins := by
    obtain ⟨c, more, hmore⟩ := List.exists_cons_of_ne_nil (Path.writeNat_ne_nil n)
    refine ⟨c, more, hmore, ?_⟩
    rintro rfl
    have hdigit : Text.isDigit '=' = true :=
      Path.isDigit_of_mem_writeNat '=' (hmore ▸ List.mem_cons_self)
    exact absurd hdigit (by decide)
  reads offset rest hrest := by
    have hderives : Derives .primary [⟨.number, String.ofList (Text.writeNat n), offset⟩]
        (.literal (.int n)) := by
      have hnumber : numberValue (String.ofList (Text.writeNat n)).toList = .int n := by
        rw [String.toList_ofList, numberValue_writeNat]
      exact hnumber ▸ .number
    exact ⟨_, yields_number n (fun c hc => (hrest.1 c hc).2) hrest.2 offset, .bare hderives⟩

theorem readAs_str (text : String) :
    ReadAs targetRank (quotedString text) (.literal (.str text)) where
  begins := ⟨_, _, rfl, by decide⟩
  reads offset rest _ := by
    have hderives : Derives .primary [⟨.string, String.ofList (quotedString text), offset⟩]
        (.literal (.str text)) := by
      have hstring : stringValue (String.ofList (quotedString text)).toList = .str text := by
        rw [String.toList_ofList, stringValue_quotedString]
      exact hstring ▸ .string
    exact ⟨_, yields_string text offset rest, .bare hderives⟩

/-- Parentheses are put where they are needed, and then anything may stand between them. -/
theorem ReadAs.enclosed {rank : Nat} (hrank : rank ≤ targetRank) (h : ReadAs e.rank text e) :
    ReadAs rank (enclosed rank e text) e := by
  rw [Expr.enclosed]
  split
  · refine ReadAs.looser ⟨⟨_, _, rfl, by decide⟩, ?_⟩ hrank
    intro offset rest _
    obtain ⟨ts, hts, hderives⟩ := (h.looser (Nat.zero_le _)).reads (offset + 1) (')' :: rest)
      (ends_delimiter (by decide) rest)
    have hopen := yields_bracket (show '(' ∈ _ by decide) offset (text ++ [')'] ++ rest)
    have hclose := yields_bracket (show ')' ∈ _ by decide) (offset + 1 + text.length) rest
    exact ⟨_, hopen.append (hts.append hclose), .bare (.group hderives)⟩
  · next hloose => exact h.looser (by omega)

theorem ReadAs.member (h : ReadAs targetRank text target) (hfield : isWordText field = true)
    (isOptional : Bool) :
    ReadAs targetRank (text ++ ((if isOptional then ['?', '.'] else ['.']) ++ field.toList))
      (.member target field isOptional) where
  begins := by
    obtain ⟨c, more, rfl, hc⟩ := h.begins
    exact ⟨c, _, rfl, hc⟩
  reads offset rest hrest := by
    have hword (o : Nat) : Yields field.toList o [⟨.word, field, o⟩] rest :=
      yields_word hfield (fun c hc => (hrest.1 c hc).1) o
    cases isOptional with
    | false =>
      obtain ⟨ts, hts, hderives⟩ := h.reads offset _ (ends_point hfield rest)
      have hdot := yields_bracket (show '.' ∈ _ by decide) (offset + text.length)
        (field.toList ++ rest)
      exact ⟨_, hts.append (hdot.append (hword _)), .member hderives⟩
    | true =>
      obtain ⟨ts, hts, hderives⟩ := h.reads offset ('?' :: '.' :: (field.toList ++ rest))
        (ends_delimiter (by decide) _)
      have hdot := yields_doubleSign (show isDoubleSign '?' '.' = true by decide)
        (offset + text.length) (field.toList ++ rest)
      exact ⟨_, hts.append (hdot.append (hword _)), .optionalMember hderives⟩

theorem ReadAs.index (h : ReadAs targetRank text target) (hplace : ReadAs 0 other place) :
    ReadAs targetRank (text ++ ('[' :: (other ++ [']']))) (.index target place false) where
  begins := by
    obtain ⟨c, more, rfl, hc⟩ := h.begins
    exact ⟨c, _, rfl, hc⟩
  reads offset rest _ := by
    obtain ⟨ts, hts, hderives⟩ := h.reads offset ('[' :: (other ++ [']'] ++ rest))
      (ends_delimiter (by decide) _)
    obtain ⟨us, hus, hinner⟩ := hplace.reads (offset + text.length + 1) (']' :: rest)
      (ends_delimiter (by decide) rest)
    have hopen := yields_bracket (show '[' ∈ _ by decide) (offset + text.length)
      (other ++ [']'] ++ rest)
    have hclose := yields_bracket (show ']' ∈ _ by decide)
      (offset + text.length + 1 + other.length) rest
    exact ⟨_, hts.append (hopen.append (hus.append hclose)), .index hderives hinner⟩

theorem ReadAs.unary (op : UnaryOp) (h : ReadAs prefixRank text operand) :
    ReadAs prefixRank (op.text.toList ++ text) (.unary op operand) where
  begins := by cases op <;> exact ⟨_, _, rfl, by decide⟩
  reads offset rest hrest := by
    obtain ⟨c, more, rfl, hc⟩ := h.begins
    obtain ⟨t, ht, hsign⟩ := exists_yields_unary op offset hc (more ++ rest)
    obtain ⟨ts, hts, hderives⟩ := h.reads (offset + op.text.toList.length) rest hrest
    exact ⟨t :: ts, hsign.append hts, .prefixed ht hderives⟩

theorem ReadAs.binary (op : BinaryOp) (hleft : ReadAs op.level.rank text left)
    (hright : ReadAs (op.level.rank + 1) other right) :
    ReadAs op.level.rank (text ++ (' ' :: (op.text.toList ++ ' ' :: other)))
      (.binary op left right) where
  begins := by
    obtain ⟨c, more, rfl, hc⟩ := hleft.begins
    exact ⟨c, _, rfl, hc⟩
  reads offset rest hrest := by
    obtain ⟨ts, hts, hl⟩ := hleft.reads offset
      (' ' :: (op.text.toList ++ ' ' :: other ++ rest)) (ends_delimiter (by decide) _)
    obtain ⟨os, hop, hos⟩ := exists_yields_binary op (offset + text.length + 1) (other ++ rest)
    obtain ⟨us, hus, hr⟩ :=
      hright.reads (offset + text.length + 1 + op.text.toList.length + 1) rest hrest
    rw [Symbol.ofRank_rank] at hl ⊢
    rw [Symbol.ofRank_rank_succ] at hr
    exact ⟨ts ++ (os ++ us), hts.spaced (hos.spaced hus), .operation hop hl hr⟩

/-- The elements of an array are read up to the bracket behind them. -/
theorem exists_yields_items {items : List Expr} (hne : items ≠ [])
    (h : ∀ e ∈ items, ReadAs 0 (renderChars e) e) (offset : Nat) (rest : List Char) :
    ∃ tokens, Yields (renderItems items) offset tokens (']' :: rest) ∧
      Derives .elements tokens (.array items) := by
  induction items generalizing offset with
  | nil => exact absurd rfl hne
  | cons e items ih =>
    have he := h e List.mem_cons_self
    cases items with
    | nil =>
      obtain ⟨ts, hts, hderives⟩ := he.reads offset (']' :: rest) (ends_delimiter (by decide) rest)
      exact ⟨ts, hts, .last hderives⟩
    | cons f items =>
      obtain ⟨ts, hts, hfirst⟩ := he.reads offset
        (',' :: ' ' :: (renderItems (f :: items) ++ ']' :: rest)) (ends_delimiter (by decide) _)
      have hcomma := yields_bracket (show ',' ∈ _ by decide) (offset + (renderChars e).length)
        (' ' :: (renderItems (f :: items) ++ ']' :: rest))
      obtain ⟨us, hus, hmore⟩ := ih (List.cons_ne_nil f items)
        (fun g hg => h g (List.mem_cons_of_mem e hg)) (offset + (renderChars e).length + 1 + 1)
      exact ⟨_, hts.append (hcomma.spaced hus), .more hfirst hmore⟩

theorem readAs_array {items : List Expr} (h : ∀ e ∈ items, ReadAs 0 (renderChars e) e) :
    ReadAs targetRank ('[' :: (renderItems items ++ [']'])) (.array items) where
  begins := ⟨_, _, rfl, by decide⟩
  reads offset rest _ := by
    have hopen := yields_bracket (show '[' ∈ _ by decide) offset
      (renderItems items ++ [']'] ++ rest)
    have hclose := yields_bracket (show ']' ∈ _ by decide)
      (offset + 1 + (renderItems items).length) rest
    by_cases hitems : items = []
    · subst hitems
      exact ⟨_, hopen.append hclose, .bare .emptyArray⟩
    · obtain ⟨ts, hts, helements⟩ := exists_yields_items hitems h (offset + 1) rest
      exact ⟨_, hopen.append (hts.append hclose), .bare (.array helements)⟩

end Operands

/-- What is written is read back, at every place that it is tight enough for. -/
theorem readAs_render {e : Expr} (h : Writable e) : ReadAs e.rank (renderChars e) e := by
  induction h with
  | int n => exact readAs_int n
  | str text => exact readAs_str text
  | bool b =>
    cases b with
    | false => exact readAs_word "false" (by decide) (by decide)
    | true => exact readAs_word "true" (by decide) (by decide)
  | null => exact readAs_word "nil" (by decide) (by decide)
  | array _ ih => exact readAs_array fun e he => (ih e he).looser (Nat.zero_le _)
  | @name text isWord free =>
    simp only [Expr.reservedWords, List.mem_cons, List.not_mem_nil, or_false, not_or] at free
    have hname : wordOperand text = .name text := by simp [wordOperand, wordValue?, free]
    have hread := readAs_word text isWord free.2.2.2.2
    rwa [hname] at hread
  | member _ isWord ih => exact (ih.enclosed le_rfl).member isWord _
  | index _ _ ih ihplace => exact (ih.enclosed le_rfl).index (ihplace.looser (Nat.zero_le _))
  | unary _ ih => exact .unary _ (ih.enclosed (by decide))
  | @binary op left right _ _ ihleft ihright =>
    have hlevel : op.level.rank + 1 ≤ targetRank := by cases op <;> decide
    exact .binary op (ihleft.enclosed (by omega)) (ihright.enclosed hlevel)

/-- Writing a predicate and reading it again gives it back. -/
theorem parse_render (e : Expr) (h : e.Writable) : parse e.render = .ok e := by
  obtain ⟨tokens, hyields, hderives⟩ :=
    ((readAs_render h).looser (Nat.zero_le _)).reads 0 [] ends_nil
  have hscan : scan e.render.toList = .ok tokens := by
    rw [Expr.render, String.toList_ofList]
    exact hyields.scan_eq
  rw [parse, hscan]
  exact parseTokens_of_derives (scan_isProper hscan) hderives

/-- Parentheses are only where associativity and levels do not put the operands together anyway. -/
theorem parse_render_nested :
    ∃ e : Expr, e.Writable ∧
      e.render = "in?.not not in ['it\\'s \\\\', 10, []] && !(a - (b - or[-1]) - nil || (-c).d)" ∧
      parse e.render = .ok e := by
  let choice := Expr.binary .notMember (.member (.name "in") "not" true)
    (.array [.literal (.str "it's \\"), .literal (.int 10), .array []])
  let difference := Expr.binary .sub
    (.binary .sub (.name "a")
      (.binary .sub (.name "b") (.index (.name "or") (.unary .neg (.literal (.int 1))) false)))
    (.literal .null)
  let access := Expr.member (.unary .neg (.name "c")) "d" false
  have hchoice : choice.Writable := by
    refine .binary (.member (.name (by decide) (by decide)) (by decide)) (.array ?_)
    simp only [List.mem_cons, List.not_mem_nil, or_false, forall_eq_or_imp, forall_eq]
    exact ⟨.str _, .int 10, .array (by simp)⟩
  have hdifference : difference.Writable :=
    .binary (.binary (.name (by decide) (by decide)) (.binary (.name (by decide) (by decide))
      (.index (.name (by decide) (by decide)) (.unary (.int 1))))) .null
  have haccess : access.Writable :=
    .member (.unary (.name (by decide) (by decide))) (by decide)
  have hwritable :
      Expr.Writable (.binary .and choice (.unary .not (.binary .or difference access))) :=
    .binary hchoice (.unary (.binary hdifference haccess))
  exact ⟨_, hwritable, by decide, parse_render _ hwritable⟩

end Predicate
end NextWord
