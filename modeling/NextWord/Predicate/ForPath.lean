import NextWord.Path.Template
import NextWord.Predicate.Expr

/-!
# Predicates for one path

A predicate of an attribute of array elements speaks of them by the index name `n`. For one concrete
path each such index is replaced by an index of the path: the one at its own place if the path
starts like the reference, and otherwise the one that comes as often after others as the index name
does in the reference. Accesses become optional, so that missing data reads as nothing.
-/

namespace NextWord.Expr

open NextWord.Path

/-- The index of a path that an element access stands for. -/
def placeIn? (access : Expr) (path : List Char) : Option Nat :=
  let indices := Path.indices path
  match access.reference? with
  | none => indices[0]?
  | some reference =>
    let template := Template.ofText reference.toList
    match template.read? path with
    | some (own, _) => own.getLast?
    | none => indices[template.holeCount - 1]?

def filledPlace (access place : Expr) (path : List Char) : Expr :=
  match placeIn? access path with
  | some i => .literal (.int i)
  | none => place

mutual

def forPath (path : List Char) : Expr → Expr
  | .literal v => .literal v
  | .array items => .array (forPathAll path items)
  | .name text => .name text
  | .member target field _ => .member (forPath path target) field true
  | .index target place isOptional =>
    .index (forPath path target)
      (if place.isIndexName then filledPlace (.index target place isOptional) place path
        else forPath path place)
      true
  | .unary op operand => .unary op (forPath path operand)
  | .binary op left right => .binary op (forPath path left) (forPath path right)

def forPathAll (path : List Char) : List Expr → List Expr
  | [] => []
  | e :: es => forPath path e :: forPathAll path es

end

end NextWord.Expr
