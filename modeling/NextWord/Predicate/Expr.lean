import NextWord.Value.Written

/-!
# Predicates

The expressions that say when an attribute applies: literals, arrays, names of top-level attributes,
access to members and elements, negation, and infix operations. An optional access reads nothing
from a missing value where a plain one fails. The levels of infix operations, from the loosest to
the tightest, are kept in one place for the parser, the printer and the grammar.
-/

namespace NextWord

inductive UnaryOp
  | not
  | neg
  deriving DecidableEq, Repr

inductive BinaryOp
  | or
  | and
  | equal
  | notEqual
  | less
  | lessEqual
  | greater
  | greaterEqual
  | member
  | notMember
  | add
  | sub
  deriving DecidableEq, Repr

inductive Expr
  | literal (v : Value)
  | array (items : List Expr)
  | name (text : String)
  | member (target : Expr) (name : String) (isOptional : Bool)
  | index (target : Expr) (place : Expr) (isOptional : Bool)
  | unary (op : UnaryOp) (operand : Expr)
  | binary (op : BinaryOp) (left right : Expr)
  deriving Repr, Inhabited

namespace UnaryOp

def text : UnaryOp → String
  | .not => "!"
  | .neg => "-"

end UnaryOp

inductive Level
  | either
  | both
  | equality
  | relation
  | sum
  deriving DecidableEq, Repr

namespace Level

/-- The next tighter level; the tightest one has prefix operations below it. -/
def tighter : Level → Option Level
  | .either => some .both
  | .both => some .equality
  | .equality => some .relation
  | .relation => some .sum
  | .sum => none

/-- The place of a level, counted from the loosest. -/
def rank : Level → Nat
  | .either => 0
  | .both => 1
  | .equality => 2
  | .relation => 3
  | .sum => 4

theorem rank_tighter {l m : Level} (h : l.tighter = some m) : m.rank = l.rank + 1 := by
  cases l <;> cases h <;> rfl

end Level

namespace BinaryOp

def text : BinaryOp → String
  | .or => "||"
  | .and => "&&"
  | .equal => "=="
  | .notEqual => "!="
  | .less => "<"
  | .lessEqual => "<="
  | .greater => ">"
  | .greaterEqual => ">="
  | .member => "in"
  | .notMember => "not in"
  | .add => "+"
  | .sub => "-"

def level : BinaryOp → Level
  | .or => .either
  | .and => .both
  | .equal => .equality
  | .notEqual => .equality
  | .less => .relation
  | .lessEqual => .relation
  | .greater => .relation
  | .greaterEqual => .relation
  | .member => .relation
  | .notMember => .relation
  | .add => .sum
  | .sub => .sum

end BinaryOp

namespace Expr

/-- The name that stands for an index to be filled in from the path in question. -/
def indexName : String := "n"

def isIndexName : Expr → Bool
  | .name text => text == indexName
  | _ => false

/-- The path that a chain of accesses spells, if it is one that starts at a name. Indices are
written literals or the index name. -/
def reference? : Expr → Option String
  | .name text => some text
  | .member target field _ => (reference? target).map fun base => base ++ "." ++ field
  | .index target place _ =>
    match reference? target, place with
    | some base, .name text => if text = indexName then some (base ++ "[n]") else none
    | some base, .literal (.int i) => some (base ++ "[" ++ intText i ++ "]")
    | some base, .literal (.bool b) => some (base ++ "[" ++ (Value.bool b).written ++ "]")
    | _, _ => none
  | _ => none

mutual

def names : Expr → List String
  | .literal _ => []
  | .array items => namesOfAll items
  | .name text => [text]
  | .member target _ _ => names target
  | .index target place _ => names target ++ names place
  | .unary _ operand => names operand
  | .binary _ left right => names left ++ names right

def namesOfAll : List Expr → List String
  | [] => []
  | e :: es => names e ++ namesOfAll es

end

end Expr
end NextWord
