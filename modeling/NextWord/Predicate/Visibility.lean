import NextWord.Predicate.Eval
import NextWord.Predicate.Parser
import NextWord.Predicate.ForPath
import NextWord.Resource.Attribute

/-!
# Visibility of attributes

An attribute applies when its predicate is true for the path in question and the state so far. The
predicate of an attribute is `when` together with one of its alternatives; without any condition the
attribute always applies. A judge keeps the predicates it has read, by attribute key, and reads each
at most once; a predicate that cannot be read is not kept.
-/

namespace NextWord

inductive PredicateFault
  | wording (source : String) (fault : Predicate.SyntaxFault)
  | evaluation (fault : EvalFault)
  deriving Repr

namespace PredicateFault

def message : PredicateFault → String
  | .wording source fault => fault.message source
  | .evaluation fault => fault.message

/-- Every fault but an integer too large to become a double is the predicate's own; an attribute is
offered in spite of it. -/
def isOwn : PredicateFault → Bool
  | .evaluation .integerTooLarge => false
  | _ => true

end PredicateFault

namespace Predicate

def read (source : String) : Except PredicateFault Expr :=
  match parse source with
  | .ok e => .ok e
  | .error fault => .error (.wording source fault)

def readAll : List String → Except PredicateFault (List Expr)
  | [] => .ok []
  | source :: sources =>
    match read source with
    | .error fault => .error fault
    | .ok e =>
      match readAll sources with
      | .error fault => .error fault
      | .ok es => .ok (e :: es)

/-- Alternatives joined from the left. -/
def anyOf : List Expr → Option Expr
  | [] => none
  | e :: es => some (es.foldl (.binary .or) e)

/-- Two optional conditions, both of which have to hold. -/
def both : Option Expr → Option Expr → Option Expr
  | some a, some b => some (.binary .and a b)
  | some a, none => some a
  | none, b => b

/-- The predicate of an attribute, none if it always applies. -/
def ofAttribute (a : Attribute) : Except PredicateFault (Option Expr) :=
  let guards := if Attribute.isBlankCondition a.when then [] else [a.when]
  match readAll guards with
  | .error fault => .error fault
  | .ok guard =>
    match readAll (a.conditions.filter fun c => !Attribute.isBlankCondition c) with
    | .error fault => .error fault
    | .ok alternatives => .ok (both guard.head? (anyOf alternatives))

def decideFor (env : Environment) (predicate : Option Expr) (path : String) :
    Except PredicateFault Bool :=
  match predicate with
  | none => .ok true
  | some e =>
    match (e.forPath path.toList).eval env with
    | .ok v => .ok v.isTruthy
    | .error fault => .error (.evaluation fault)

def isVisible (env : Environment) (a : Attribute) (path : String) : Except PredicateFault Bool :=
  match ofAttribute a with
  | .error fault => .error fault
  | .ok predicate => decideFor env predicate path

end Predicate

/-- An environment with the predicates read so far, by attribute key. -/
structure Judge where
  environment : Environment
  known : Table String (Option Expr) := []

namespace Judge

def ofState (known supplied : Entries) : Judge :=
  { environment := .build known supplied }

/-- The predicate of an attribute, read unless it is known. -/
def predicateOf (j : Judge) (a : Attribute) : Judge × Except PredicateFault (Option Expr) :=
  match j.known.find? a.key with
  | some predicate => (j, .ok predicate)
  | none =>
    match Predicate.ofAttribute a with
    | .error fault => (j, .error fault)
    | .ok predicate => ({ j with known := j.known.put a.key predicate }, .ok predicate)

def decide (j : Judge) (a : Attribute) (path : String) : Judge × Except PredicateFault Bool :=
  match j.predicateOf a with
  | (j, .error fault) => (j, .error fault)
  | (j, .ok predicate) => (j, Predicate.decideFor j.environment predicate path)

end Judge
end NextWord
