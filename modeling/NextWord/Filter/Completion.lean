import NextWord.Filter.Token
import NextWord.Vocabulary

/-!
# Completion of filters

The next piece of a filter follows from its last token or two, the operator that governs it and the
number of commas behind that operator. Each candidate is the whole filter with the piece added.
Values are closed on the text exactly as typed; other pieces are put behind what the tokens
consumed. A text that cannot be read starts over with the operators.
-/

namespace NextWord.Filter

/-- The last operator among tokens, and the number of commas behind it. -/
def governing (tokens : List Token) : Option TokenKind × Nat :=
  tokens.foldl
    (fun (operator, commas) token =>
      if token.kind.isOperator then (some token.kind, 0)
      else if token.kind = .comma then (operator, commas + 1)
      else (operator, commas))
    (none, 0)

def closingMark : Mode → Option Char
  | .singleQuote => some '\''
  | .doubleQuote => some '"'
  | _ => none

/-- Ends the value being typed, or the call, as far as the operator allows. -/
def closings (typed : String) (governs : Option TokenKind × Nat) : List String :=
  if governs.1 = some .binaryOp ∧ 1 ≤ governs.2 then [typed ++ ")"]
  else [typed ++ ")", typed ++ ","]

def fieldsAfter (consumed : List Char) (fields : List String) : List String :=
  fields.map fun field => String.ofList consumed ++ field ++ ","

def operatorsAfter (consumed : List Char) : List String :=
  Vocabulary.filterOperators.map (String.ofList consumed ++ ·)

/-- The fields offered: those of the resource, then those of every resource, each once. -/
def offeredFields (fields : List String) : List String :=
  (fields ++ Vocabulary.filterImplicitFields).eraseDups

def afterRaw (typed : String) (fields : List String) (previous : Option Token)
    (governs : Option TokenKind × Nat) : List String :=
  match previous with
  | none => []
  | some previous =>
    if previous.kind.isOperator then fieldsAfter previous.consumed (offeredFields fields)
    else if previous.kind = .comma then
      if governs.1 = some .varargOp then [typed ++ ")", typed ++ ","] else [typed ++ ")"]
    else []

/-- Candidates behind the last token, the one before it being given as well. -/
def afterToken (typed : String) (fields : List String) (last : Token) (previous : Option Token)
    (governs : Option TokenKind × Nat) : List String :=
  match closingMark last.before with
  | some mark =>
    if last.kind.isContents then closings (typed ++ String.singleton mark) governs
    else closings typed governs
  | none =>
    match last.kind with
    | .binaryOp => fieldsAfter last.consumed (offeredFields fields)
    | .varargOp => fieldsAfter last.consumed (offeredFields fields)
    | .chain => operatorsAfter last.consumed
    | .rightParen => [String.ofList last.consumed ++ ":"]
    | .rawLiteral =>
      if last.before = .regular then
        operatorsAfter ((previous.map Token.consumed).getD [])
      else afterRaw typed fields previous governs
    | _ => []

def complete (typed : String) (fields : List String) : List String :=
  match lex typed.toList with
  | .error _ => Vocabulary.filterOperators
  | .ok tokens =>
    match tokens.reverse with
    | [] => Vocabulary.filterOperators
    | last :: more => afterToken typed fields last more.head? (governing tokens)

end NextWord.Filter
