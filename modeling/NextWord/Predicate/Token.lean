import NextWord.Text.Blank
import NextWord.Text.DecimalDigit
import NextWord.Text.Quoted

/-!
# Tokens of a predicate

A predicate is cut into numbers, strings, signs and words; blanks separate them and are dropped. At
each place the first kind that fits is taken, as long as it goes. A string ends at its own quotation
mark; a backslash takes the next character with it, which may not be a line break. A number may have
any number of digits; a bound that a machine sets on the digits it converts is left out of account.

Main statement: what the scanner sees behind a token is the text behind the token's characters
(`scanFrom_eq_drop`), so a token depends on nothing in front of it.
-/

namespace NextWord.Predicate

inductive TokenKind
  | number
  | string
  | sign
  | word
  deriving DecidableEq, Repr

/-- A token with its text as written and the offset of its first character. -/
structure Token where
  kind : TokenKind
  text : String
  offset : Nat
  deriving DecidableEq, Repr

inductive SyntaxFault
  | unexpectedCharacter (c : Char) (offset : Nat)
  | noTokens
  | expected (sign : String) (found : Option String)
  | unexpectedToken (text : String) (offset : Nat)
  | memberNameExpected (behind : String)
  | unexpectedEnd
  deriving DecidableEq, Repr

def SyntaxFault.message (source : String) : SyntaxFault → String
  | .unexpectedCharacter c offset =>
    "unexpected character " ++ Text.quotedChar c ++ s!" at offset {offset} in: {source}"
  | .noTokens => "empty predicate"
  | .expected sign found =>
    "expected " ++ Text.quoted sign ++ ", found " ++
      (match found with
        | some text => Text.quoted text
        | none => "end of input") ++ s!" in: {source}"
  | .unexpectedToken text offset =>
    "unexpected " ++ Text.quoted text ++ s!" at offset {offset} in: {source}"
  | .memberNameExpected behind =>
    "expected a member name after " ++ Text.quoted behind ++ s!" in: {source}"
  | .unexpectedEnd => s!"unexpected end of predicate: {source}"

def isWordStart (c : Char) : Bool :=
  c.isAlpha || c == '_' || c == '$'

def isWordPart (c : Char) : Bool :=
  c.isAlphanum || c == '_' || c == '$'

def isSign (c : Char) : Bool :=
  ['<', '>', '!', '+', '-', '.', '[', ']', '(', ')', ','].contains c

def isDoubleSign (c d : Char) : Bool :=
  [('?', '.'), ('=', '='), ('!', '='), ('<', '='), ('>', '='), ('&', '&'), ('|', '|')].contains
    (c, d)

/-- The characters of a string behind its opening mark, the closing mark included. -/
def stringRest? (mark : Char) : List Char → Option (List Char)
  | [] => none
  | ['\\'] => none
  | '\\' :: c :: rest =>
    if c = '\n' then none else (stringRest? mark rest).map fun taken => '\\' :: c :: taken
  | c :: rest =>
    if c = mark then some [c] else (stringRest? mark rest).map (c :: ·)

/-- The point and the digits behind it, if a fraction follows. -/
def fractionPart : List Char → List Char
  | '.' :: rest =>
    match rest.takeWhile Text.isDigit with
    | [] => []
    | digits => '.' :: digits
  | _ => []

/-- What stands at the start of a text that is not empty: blanks have no kind. -/
inductive Lexeme
  | blanks (taken : List Char)
  | token (kind : TokenKind) (taken : List Char)
  | none
  deriving DecidableEq

def lexemeAt (c : Char) (rest : List Char) : Lexeme :=
  if Text.isBlank c then .blanks (c :: rest.takeWhile Text.isBlank)
  else if Text.isDigit c then
    let digits := c :: rest.takeWhile Text.isDigit
    .token .number (digits ++ fractionPart (rest.dropWhile Text.isDigit))
  else if c = '\'' ∨ c = '"' then
    match stringRest? c rest with
    | some taken => .token .string (c :: taken)
    | none => .none
  else if rest.head?.any (isDoubleSign c) then .token .sign (c :: rest.take 1)
  else if isSign c then .token .sign [c]
  else if isWordStart c then .token .word (c :: rest.takeWhile isWordPart)
  else .none

/-- The tokens of the text left, at an offset; `skip` counts the characters that belong to a lexeme
already read. -/
def scanFrom : Nat → Nat → List Char → Except SyntaxFault (List Token)
  | _, _, [] => .ok []
  | skip + 1, offset, _ :: rest => scanFrom skip (offset + 1) rest
  | 0, offset, c :: rest =>
    match lexemeAt c rest with
    | .none => .error (.unexpectedCharacter c offset)
    | .blanks taken => scanFrom (taken.length - 1) (offset + 1) rest
    | .token kind taken =>
      match scanFrom (taken.length - 1) (offset + 1) rest with
      | .ok tokens => .ok (⟨kind, String.ofList taken, offset⟩ :: tokens)
      | .error fault => .error fault

def scan (text : List Char) : Except SyntaxFault (List Token) :=
  scanFrom 0 0 text

theorem scanFrom_eq_drop (skip offset : Nat) (text : List Char) (h : skip ≤ text.length) :
    scanFrom skip offset text = scanFrom 0 (offset + skip) (text.drop skip) := by
  induction skip generalizing offset text with
  | zero => simp
  | succ skip ih =>
    cases text with
    | nil => simp at h
    | cons c rest =>
      rw [scanFrom, ih (offset + 1) rest (by simpa using h), List.drop_succ_cons,
        Nat.add_right_comm, Nat.add_assoc]

def unescape (c : Char) : Char :=
  if c = 'n' then '\n' else if c = 't' then '\t' else c

def unescaped : List Char → List Char
  | '\\' :: c :: rest => unescape c :: unescaped rest
  | c :: rest => c :: unescaped rest
  | [] => []

end NextWord.Predicate
