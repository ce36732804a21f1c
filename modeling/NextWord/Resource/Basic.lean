import NextWord.Log.Logged
import NextWord.Regex.Match
import NextWord.Resource.Attribute
import NextWord.Value.Basic

/-!
# Resources

A resource has a plural and a singular name, a type used in payloads, attributes under their keys,
and the operations that can be called on it. Names and types may be left out by a definition, and a
definition may set them to nothing.

The attribute that governs a concrete path is the one whose literal key is the folded path or the
path itself, and otherwise the first whose pattern matches somewhere in one of the two. Patterns
that are no valid expressions match nothing.
-/

namespace NextWord

structure Operation where
  url : Value
  queryParameters : List Value

structure Resource where
  name : String
  singularName : Option String := some ""
  jsonApiType : Option String := some ""
  alternateTypes : List Value := []
  attributes : Table String Attribute := []
  getEntity : Option Operation := none
  getCollection : Option Operation := none
  createEntity : Option Operation := none
  updateEntity : Option Operation := none
  deleteEntity : Option Operation := none

/-- A name that says something: neither missing nor empty. -/
def properName? : Option String → Option String
  | some "" => none
  | name => name

namespace Resource

def literalAttributes (r : Resource) : List Attribute :=
  r.attributes.values.filter fun a => !a.isPattern

def patternAttributes (r : Resource) : List Attribute :=
  r.attributes.values.filter Attribute.isPattern

/-- Whether a pattern key matches somewhere in a path or in its folded form. -/
def patternMatches (key path : String) : Except Failure Bool :=
  match Regex.parse key.toList with
  | .ok e => .ok (e.occurs path.toList || e.occurs (Path.fold path.toList))
  | .error .malformed => .ok false
  | .error .tooManyRounds => .error .tooManyRounds

def firstMatch (path : String) : List Attribute → Except Failure (Option Attribute)
  | [] => .ok none
  | a :: rest =>
    match patternMatches a.key path with
    | .ok true => .ok (some a)
    | .ok false => firstMatch path rest
    | .error failure => .error failure

/-- The attribute under the folded path, or under the path itself. -/
def stored? (r : Resource) (path : String) : Option Attribute :=
  (r.attributes.find? (Path.foldIndices path)).orElse fun _ => r.attributes.find? path

/-- The attribute that governs a concrete path. -/
def findAttribute (r : Resource) (path : String) : Except Failure (Option Attribute) :=
  match r.stored? path with
  | some a => if a.isPattern then firstMatch path r.patternAttributes else .ok (some a)
  | none => firstMatch path r.patternAttributes

end Resource
end NextWord
