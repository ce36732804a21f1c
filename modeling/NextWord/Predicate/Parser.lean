import NextWord.Predicate.Expr
import NextWord.Predicate.Token

/-!
# Reading predicates

A predicate is read by descent through the levels of its operations. At each level the operand of
the next tighter level is read, and then further operands as long as an operation of the level
follows; they associate to the left. Below the tightest level stand prefix operations, then accesses
behind an operand, then the operands themselves.

Every reader takes the tokens left and returns what it built with the tokens behind it. `fuel`
bounds the depth of the descent; `parse` gives more than any text of its length needs. Predicates
may be nested to any depth and integers have any number of digits: bounds that a machine sets on its
stack or on the digits it converts are left out of account.
-/

namespace NextWord.Predicate

/-- The rest behind a sign or word with the given text. -/
def after? (text : String) : List Token → Option (List Token)
  | ⟨.sign, t, _⟩ :: rest => if t = text then some rest else none
  | ⟨.word, t, _⟩ :: rest => if t = text then some rest else none
  | _ => none

def operator? (level : Level) (tokens : List Token) : Option (BinaryOp × List Token) :=
  let pick (choices : List (String × BinaryOp)) : Option (BinaryOp × List Token) :=
    choices.findSome? fun (text, op) => (after? text tokens).map fun rest => (op, rest)
  match level with
  | .either => pick [("||", .or), ("or", .or)]
  | .both => pick [("&&", .and), ("and", .and)]
  | .equality => pick [("==", .equal), ("!=", .notEqual)]
  | .relation =>
    match pick [("<", .less), ("<=", .lessEqual), (">", .greater), (">=", .greaterEqual),
        ("in", .member)] with
    | some found => some found
    | none =>
      match tokens with
      | ⟨.word, "not", _⟩ :: ⟨.word, "in", _⟩ :: rest => some (.notMember, rest)
      | _ => none
  | .sum => pick [("+", .add), ("-", .sub)]

def expect (sign : String) (tokens : List Token) : Except SyntaxFault (List Token) :=
  match after? sign tokens with
  | some rest => .ok rest
  | none => .error (.expected sign (tokens.head?.map Token.text))

def numberValue (text : List Char) : Value :=
  let whole := text.takeWhile (· != '.')
  match text.dropWhile (· != '.') with
  | _ :: decimals =>
    .float (.ofDecimal false (Text.readNat (whole ++ decimals)) (whole.length + decimals.length)
      (-(decimals.length : Int)))
  | [] => .int (Text.readNat whole)

/-- The value of a string token, its quotation marks included. -/
def stringValue (text : List Char) : Value :=
  .str (String.ofList (unescaped (text.drop 1).dropLast))

def wordValue? (text : String) : Option Value :=
  if text = "true" then some (.bool true)
  else if text = "false" then some (.bool false)
  else if text = "nil" ∨ text = "null" then some .null
  else none

def wordOperand (text : String) : Expr :=
  match wordValue? text with
  | some v => .literal v
  | none => .name text

mutual

def level : Nat → Level → List Token → Except SyntaxFault (Expr × List Token)
  | 0, _, _ => .error .unexpectedEnd
  | fuel + 1, l, tokens =>
    match operand fuel l tokens with
    | .error fault => .error fault
    | .ok (left, rest) => more fuel l left rest

/-- An operand of a level: an expression at the next tighter one. -/
def operand : Nat → Level → List Token → Except SyntaxFault (Expr × List Token)
  | 0, _, _ => .error .unexpectedEnd
  | fuel + 1, l, tokens =>
    match l.tighter with
    | some m => level fuel m tokens
    | none => prefixed fuel tokens

/-- Further operands of a level behind a left one. -/
def more : Nat → Level → Expr → List Token → Except SyntaxFault (Expr × List Token)
  | 0, _, _, _ => .error .unexpectedEnd
  | fuel + 1, l, left, tokens =>
    match operator? l tokens with
    | none => .ok (left, tokens)
    | some (op, rest) =>
      match operand fuel l rest with
      | .error fault => .error fault
      | .ok (right, rest) => more fuel l (.binary op left right) rest

/-- Prefix operations, then an operand with its accesses. -/
def prefixed : Nat → List Token → Except SyntaxFault (Expr × List Token)
  | 0, _ => .error .unexpectedEnd
  | fuel + 1, tokens =>
    match (after? "!" tokens).orElse fun _ => after? "not" tokens with
    | some rest =>
      match prefixed fuel rest with
      | .error fault => .error fault
      | .ok (e, rest) => .ok (.unary .not e, rest)
    | none =>
      match after? "-" tokens with
      | some rest =>
        match prefixed fuel rest with
        | .error fault => .error fault
        | .ok (e, rest) => .ok (.unary .neg e, rest)
      | none =>
        match primary fuel tokens with
        | .error fault => .error fault
        | .ok (target, rest) => accesses fuel target rest

def accesses : Nat → Expr → List Token → Except SyntaxFault (Expr × List Token)
  | 0, _, _ => .error .unexpectedEnd
  | fuel + 1, target, tokens =>
    match after? "." tokens, after? "?." tokens with
    | some rest, _ => memberAccess fuel target "." rest
    | none, some rest => memberAccess fuel target "?." rest
    | none, none =>
      match after? "[" tokens with
      | none => .ok (target, tokens)
      | some rest =>
        match level fuel .either rest with
        | .error fault => .error fault
        | .ok (place, rest) =>
          match expect "]" rest with
          | .error fault => .error fault
          | .ok rest => accesses fuel (.index target place false) rest

def memberAccess : Nat → Expr → String → List Token → Except SyntaxFault (Expr × List Token)
  | 0, _, _, _ => .error .unexpectedEnd
  | fuel + 1, target, dot, tokens =>
    match tokens with
    | ⟨.word, name, _⟩ :: rest => accesses fuel (.member target name (dot == "?.")) rest
    | _ => .error (.memberNameExpected dot)

def primary : Nat → List Token → Except SyntaxFault (Expr × List Token)
  | 0, _ => .error .unexpectedEnd
  | _ + 1, [] => .error .unexpectedEnd
  | fuel + 1, token :: rest =>
    match token.kind with
    | .number => .ok (.literal (numberValue token.text.toList), rest)
    | .string => .ok (.literal (stringValue token.text.toList), rest)
    | .word => .ok (wordOperand token.text, rest)
    | .sign =>
      if token.text = "(" then
        match level fuel .either rest with
        | .error fault => .error fault
        | .ok (e, rest) =>
          match expect ")" rest with
          | .error fault => .error fault
          | .ok rest => .ok (e, rest)
      else if token.text = "[" then
        match after? "]" rest with
        | some rest => .ok (.array [], rest)
        | none =>
          match elements fuel rest with
          | .error fault => .error fault
          | .ok (items, rest) =>
            match expect "]" rest with
            | .error fault => .error fault
            | .ok rest => .ok (.array items, rest)
      else .error (.unexpectedToken token.text token.offset)

/-- One element of an array or more, separated by commas. -/
def elements : Nat → List Token → Except SyntaxFault (List Expr × List Token)
  | 0, _ => .error .unexpectedEnd
  | fuel + 1, tokens =>
    match level fuel .either tokens with
    | .error fault => .error fault
    | .ok (e, rest) =>
      match after? "," rest with
      | none => .ok ([e], rest)
      | some rest =>
        match elements fuel rest with
        | .error fault => .error fault
        | .ok (es, rest) => .ok (e :: es, rest)

end

/-- More fuel than a descent through so many tokens needs. -/
def depthBound (tokens : List Token) : Nat :=
  16 * tokens.length + 16

def parseTokens (tokens : List Token) : Except SyntaxFault Expr :=
  match tokens with
  | [] => .error .noTokens
  | _ =>
    match level (depthBound tokens) .either tokens with
    | .error fault => .error fault
    | .ok (e, []) => .ok e
    | .ok (_, token :: _) => .error (.unexpectedToken token.text token.offset)

def parse (source : String) : Except SyntaxFault Expr :=
  match scan source.toList with
  | .error fault => .error fault
  | .ok tokens => parseTokens tokens

end NextWord.Predicate
