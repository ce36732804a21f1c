import NextWord.Value.Written

/-!
# Messages with places for arguments

A message may hold places that arguments fill in order, each once: `%s` shows an argument plainly,
`%r` in its written form, `%d` and `%i` show the whole part of a number, and `%%` stands for the
sign itself. A message without arguments is taken as it is.
-/

namespace NextWord.Message

inductive Fault
  | tooFewArguments
  | unusedArguments
  | notANumber
  | unknownPlace
  deriving DecidableEq, Repr

/-- The whole part of a number, rounded towards nought. -/
def wholePart? : Value → Option Int
  | .bool b => some (if b then 1 else 0)
  | .int i => some i
  | .float (.finite negative units) =>
    some (Binary64.signed negative (units / Binary64.unitsPerOne))
  | _ => none

def shown (place : Char) (v : Value) : Except Fault String :=
  match place with
  | 's' => .ok v.display
  | 'r' => .ok v.written
  | 'd' => ((wholePart? v).map intText).elim (.error .notANumber) .ok
  | 'i' => ((wholePart? v).map intText).elim (.error .notANumber) .ok
  | _ => .error .unknownPlace

/-- Fills the places of a message, all arguments being used. -/
def fillAll : List Char → List Value → Except Fault (List Char)
  | [], [] => .ok []
  | [], _ :: _ => .error .unusedArguments
  | ['%'], _ => .error .unknownPlace
  | '%' :: '%' :: rest, arguments => do pure ('%' :: (← fillAll rest arguments))
  | '%' :: _ :: _, [] => .error .tooFewArguments
  | '%' :: place :: rest, v :: arguments => do
    let text ← shown place v
    pure (text.toList ++ (← fillAll rest arguments))
  | c :: rest, arguments => do pure (c :: (← fillAll rest arguments))

def fill (message : String) (arguments : List Value) : Except Fault String :=
  if arguments.isEmpty then .ok message
  else (fillAll message.toList arguments).map String.ofList

end NextWord.Message
