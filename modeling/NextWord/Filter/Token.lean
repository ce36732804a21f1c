import NextWord.Text.Blank
import NextWord.Text.Pieces

/-!
# Tokens of a filter

A filter chains calls of operators by colons, as in `eq(status,paid):in(currency,"USD","EUR")`. It
is read by a machine with four modes. In each mode only some kinds of tokens are legal; of those the
first in a fixed order that matches is taken, leading blanks included, and it decides the next mode.
A text that no legal kind matches cannot be read.

Names of operators and fields that are still being typed are raw words. Inside quotation marks a
backslash protects the mark it stands before and nothing else.
-/

namespace NextWord.Filter

/-- What the reader is inside of. -/
inductive Mode
  | regular
  | call
  | singleQuote
  | doubleQuote
  deriving DecidableEq, Repr

inductive TokenKind
  | chain
  | binaryOp
  | varargOp
  | rightParen
  | comma
  | singleQuote
  | doubleQuote
  | singleQuotedContents
  | doubleQuotedContents
  | rawLiteral
  deriving DecidableEq, Repr

/-- Operators of a field and one value. -/
def binaryOperators : List String := ["eq", "like", "gt", "ge", "lt", "le"]

/-- Operators of a field and any number of values. -/
def varargOperators : List String := ["in"]

def isRaw (c : Char) : Bool :=
  c.isAlphanum ||
    ['@', '$', '_', '*', '.', '\x7b', '\x7d', '|', ' ', '+', ':', '/', '-'].contains c

/-- The contents of quotation marks up to the closing one: all but the mark and backslashes, and
marks behind a backslash. -/
def contents (mark : Char) : List Char → List Char
  | '\\' :: c :: rest => if c = mark then '\\' :: c :: contents mark rest else []
  | c :: rest => if c = mark ∨ c = '\\' then [] else c :: contents mark rest
  | [] => []

def signAt? (sign : Char) (text : List Char) : Option (List Char) :=
  match text.dropWhile Text.isBlank with
  | c :: _ => if c = sign then some (text.takeWhile Text.isBlank ++ [c]) else none
  | [] => none

/-- An operator with its opening parenthesis, blanks being allowed around its name. -/
def operatorAt? (names : List String) (text : List Char) : Option (List Char) :=
  let blanks := text.takeWhile Text.isBlank
  let rest := text.dropWhile Text.isBlank
  names.findSome? fun name =>
    if name.toList.isPrefixOf rest then
      (signAt? '(' (rest.drop name.length)).map fun opening => blanks ++ name.toList ++ opening
    else none

/-- A raw word behind blanks. Where no word follows, blanks count as one up to their last space. -/
def rawAt? (text : List Char) : Option (List Char) :=
  let blanks := text.takeWhile Text.isBlank
  match (text.dropWhile Text.isBlank).takeWhile isRaw with
  | [] => Text.throughLast? ' ' blanks
  | word => some (blanks ++ word)

namespace TokenKind

/-- All kinds, in the order in which they are tried. -/
def all : List TokenKind :=
  [.chain, .binaryOp, .varargOp, .rightParen, .comma, .singleQuote, .doubleQuote,
    .singleQuotedContents, .doubleQuotedContents, .rawLiteral]

/-- The text that a kind takes at the start of a text, if it matches there. -/
def taken? (text : List Char) : TokenKind → Option (List Char)
  | .chain => signAt? ':' text
  | .binaryOp => operatorAt? binaryOperators text
  | .varargOp => operatorAt? varargOperators text
  | .rightParen => signAt? ')' text
  | .comma => signAt? ',' text
  | .singleQuote => signAt? '\'' text
  | .doubleQuote => signAt? '"' text
  | .singleQuotedContents =>
    match contents '\'' text with
    | [] => none
    | taken => some taken
  | .doubleQuotedContents =>
    match contents '"' text with
    | [] => none
    | taken => some taken
  | .rawLiteral => rawAt? text

/-- The mode behind a token of a kind, if the kind is legal in the mode before it. -/
def next? : TokenKind → Mode → Option Mode
  | .chain, .regular => some .regular
  | .binaryOp, .regular => some .call
  | .varargOp, .regular => some .call
  | .rightParen, .call => some .regular
  | .comma, .call => some .call
  | .singleQuote, .call => some .singleQuote
  | .singleQuote, .singleQuote => some .call
  | .doubleQuote, .call => some .doubleQuote
  | .doubleQuote, .doubleQuote => some .call
  | .singleQuotedContents, .singleQuote => some .singleQuote
  | .doubleQuotedContents, .doubleQuote => some .doubleQuote
  | .rawLiteral, .regular => some .regular
  | .rawLiteral, .call => some .call
  | _, _ => none

def isOperator (kind : TokenKind) : Bool :=
  kind == .binaryOp || kind == .varargOp

def isContents (kind : TokenKind) : Bool :=
  kind == .singleQuotedContents || kind == .doubleQuotedContents

end TokenKind

/-- A token with its text, all the text up to its end, and the modes around it. -/
structure Token where
  kind : TokenKind
  text : List Char
  consumed : List Char
  before : Mode
  after : Mode
  deriving DecidableEq, Repr

/-- The token at the start of a text, what was consumed before it being given. -/
def tokenAt? (mode : Mode) (consumed text : List Char) : Option Token :=
  TokenKind.all.findSome? fun kind =>
    match kind.next? mode, kind.taken? text with
    | some after, some taken => some ⟨kind, taken, consumed ++ taken, mode, after⟩
    | _, _ => none

/-- The tokens of the text left, or the text that cannot be read; `skip` counts the characters that
belong to a token already read. -/
def tokensFrom : Nat → Mode → List Char → List Char → Except (List Char) (List Token)
  | _, _, _, [] => .ok []
  | skip + 1, mode, consumed, _ :: rest => tokensFrom skip mode consumed rest
  | 0, mode, consumed, c :: rest =>
    match tokenAt? mode consumed (c :: rest) with
    | none => .error (c :: rest)
    | some token =>
      match tokensFrom (token.text.length - 1) token.after token.consumed rest with
      | .ok tokens => .ok (token :: tokens)
      | .error left => .error left

/-- Removes the spaces at both ends; other blanks stay. -/
def trimSpaces (text : List Char) : List Char :=
  ((text.dropWhile (· == ' ')).reverse.dropWhile (· == ' ')).reverse

/-- The tokens of a filter, spaces at its ends aside, or the text that cannot be read. -/
def lex (text : List Char) : Except (List Char) (List Token) :=
  tokensFrom 0 .regular [] (trimSpaces text)

def lexMessage (text : String) (left : List Char) : String :=
  s!"could not lex [{text}], remaining [" ++ String.ofList left ++ "]"

end NextWord.Filter
