import NextWord.Predicate.Environment
import NextWord.Predicate.Expr
import NextWord.Text.Pieces
import NextWord.Value.Equality

/-!
# Evaluating predicates

The value of a predicate in an environment. Names that are not there read as absent, and so does
optional access to what is missing. `&&` and `||` evaluate their right side only if it decides, and
answer with a boolean. Equality keeps booleans apart from numbers on its own level and takes absent
for nothing; comparison with something missing is false. An operation on values it has no meaning
for is a fault, and one fault is of another kind than the rest: an integer too large to become a
double.
-/

namespace NextWord

/-- Why an evaluation fails; types are named as messages name them. -/
inductive EvalFault
  | cannotCompare (left : String) (op : BinaryOp) (right : String)
  | cannotLookAmongKeys (item : String)
  | cannotLookInText (item : String)
  | notAContainer (container : String)
  | unsupportedOperands (op : BinaryOp) (left right : String)
  | missingTarget (key : Value)
  | cannotBeKey (key : String)
  | cannotRead (key : Value) (target : String)
  | cannotNegate (operand : String)
  | integerTooLarge
  deriving Repr, Inhabited

namespace EvalFault

def message : EvalFault → String
  | .cannotCompare left op right => s!"cannot compare {left} {op.text} {right}"
  | .cannotLookAmongKeys item => s!"cannot look for {item} among object keys"
  | .cannotLookInText item => s!"cannot look for {item} in a string"
  | .notAContainer container => s!"cannot use 'in' on {container}"
  | .unsupportedOperands op left right => s!"unsupported operands for {op.text}: {left} and {right}"
  | .missingTarget key => s!"cannot read {key.written} of a missing value"
  | .cannotBeKey key => s!"cannot use {key} as an object key"
  | .cannotRead key target => s!"cannot read {key.written} of {target}"
  | .cannotNegate operand => s!"cannot negate {operand}"
  | .integerTooLarge => "int too large to convert to float"

end EvalFault

namespace Eval

/-- Absent values count as nothing. -/
def presence : Value → Value
  | .absent => .null
  | v => v

def isBool : Value → Bool
  | .bool _ => true
  | _ => false

def equals (left right : Value) : Bool :=
  let left := presence left
  let right := presence right
  if isBool left != isBool right then false else left.equal right

def isMissing (v : Value) : Bool :=
  match v with
  | .absent => true
  | .null => true
  | _ => false

/-- What an order relation makes of the order of its operands; unordered operands satisfy none. -/
def holds (op : BinaryOp) : Option Ordering → Bool
  | none => false
  | some o =>
    match op with
    | .less => o == .lt
    | .lessEqual => o != .gt
    | .greater => o == .gt
    | _ => o != .lt

def compareText (s t : String) : Ordering :=
  if s < t then .lt else if s = t then .eq else .gt

def compare (op : BinaryOp) (left right : Value) : Except EvalFault Value :=
  if isMissing left || isMissing right then .ok (.bool false)
  else match left.number?, right.number? with
    | some m, some n => .ok (.bool (holds op (m.compare? n)))
    | _, _ =>
      match left, right with
      | .str s, .str t => .ok (.bool (holds op (some (compareText s t))))
      | _, _ => .error (.cannotCompare left.typeName op right.typeName)

def contains (item container : Value) : Except EvalFault Bool :=
  match container with
  | .absent => .ok false
  | .null => .ok false
  | .list items => .ok (items.any (equals item))
  | .dict entries =>
    if item.isHashable then
      .ok (match item.toKey? with
        | some key => Table.has key entries
        | none => false)
    else .error (.cannotLookAmongKeys item.typeName)
  | .str text =>
    match item with
    | .str part => .ok (Text.occursIn part.toList text.toList)
    | _ => .error (.cannotLookInText item.typeName)
  | _ => .error (.notAContainer container.typeName)

/-- Sum or difference of two numbers. An integer beside a double becomes a double. -/
def addNumbers (negateRight : Bool) : Number → Number → Except EvalFault Value
  | .int i, .int j => .ok (.int (if negateRight then i - j else i + j))
  | .float x, .float y => .ok (.float (if negateRight then x.sub y else x.add y))
  | .int i, .float y =>
    match Binary64.ofInt? i with
    | some x => .ok (.float (if negateRight then x.sub y else x.add y))
    | none => .error .integerTooLarge
  | .float x, .int j =>
    match Binary64.ofInt? j with
    | some y => .ok (.float (if negateRight then x.sub y else x.add y))
    | none => .error .integerTooLarge

/-- Sum or difference; texts and lists can be joined. -/
def arithmetic (op : BinaryOp) (left right : Value) : Except EvalFault Value :=
  match left, right with
  | .absent, _ => .ok .absent
  | _, .absent => .ok .absent
  | _, _ =>
    match left.number?, right.number? with
    | some m, some n => addNumbers (op == .sub) m n
    | _, _ =>
      match op, left, right with
      | .add, .str s, .str t => .ok (.str (s ++ t))
      | .add, .list vs, .list ws => .ok (.list (vs ++ ws))
      | _, _, _ => .error (.unsupportedOperands op left.typeName right.typeName)

/-- The element of a list at an index, counted from the end if it is negative. -/
def element (items : List Value) (i : Int) : Value :=
  let place := if i < 0 then i + items.length else i
  if place < 0 then .absent else (items[place.toNat]?).getD .absent

def access (target key : Value) (isOptional : Bool) : Except EvalFault Value :=
  match target, key with
  | .absent, _ => if isOptional then .ok .absent else .error (.missingTarget key)
  | .null, _ => if isOptional then .ok .absent else .error (.missingTarget key)
  | .dict entries, _ =>
    if key.isHashable then
      .ok (match key.toKey? with
        | some k => (Table.find? k entries).getD .absent
        | none => .absent)
    else .error (.cannotBeKey key.typeName)
  | .list items, .int i => .ok (element items i)
  | _, _ => if isOptional then .ok .absent else .error (.cannotRead key target.typeName)

def negate : Value → Except EvalFault Value
  | .absent => .ok .absent
  | .int i => .ok (.int (-i))
  | .float x => .ok (.float x.neg)
  | v => .error (.cannotNegate v.typeName)

/-- An operation whose two operands have been evaluated. -/
def apply (op : BinaryOp) (left right : Value) : Except EvalFault Value :=
  match op with
  | .equal => .ok (.bool (equals left right))
  | .notEqual => .ok (.bool (!equals left right))
  | .member => (contains left right).map .bool
  | .notMember => (contains left right).map fun b => .bool (!b)
  | .add => arithmetic op left right
  | .sub => arithmetic op left right
  | _ => compare op left right

end Eval

namespace Expr

mutual

def eval (env : Environment) : Expr → Except EvalFault Value
  | .literal v => .ok v
  | .array items => (evalAll env items).map .list
  | .name text => .ok ((env.find? (.name text)).getD .absent)
  | .member target field isOptional =>
    match eval env target with
    | .error fault => .error fault
    | .ok v => Eval.access v (.str field) isOptional
  | .index target place isOptional =>
    match eval env target with
    | .error fault => .error fault
    | .ok v =>
      match eval env place with
      | .error fault => .error fault
      | .ok key => Eval.access v key isOptional
  | .unary op operand =>
    match eval env operand with
    | .error fault => .error fault
    | .ok v =>
      match op with
      | .not => .ok (.bool (!v.isTruthy))
      | .neg => Eval.negate v
  | .binary op left right =>
    match eval env left with
    | .error fault => .error fault
    | .ok v =>
      if op = .and ∧ v.isTruthy = false then .ok (.bool false)
      else if op = .or ∧ v.isTruthy = true then .ok (.bool true)
      else
        match eval env right with
        | .error fault => .error fault
        | .ok w =>
          if op = .and ∨ op = .or then .ok (.bool w.isTruthy) else Eval.apply op v w

def evalAll (env : Environment) : List Expr → Except EvalFault (List Value)
  | [] => .ok []
  | e :: es =>
    match eval env e with
    | .error fault => .error fault
    | .ok v =>
      match evalAll env es with
      | .error fault => .error fault
      | .ok vs => .ok (v :: vs)

end

end Expr
end NextWord
