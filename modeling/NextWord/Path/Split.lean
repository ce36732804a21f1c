import NextWord.Text.DecimalDigit
import NextWord.Value.Basic

/-!
# Splitting a path into its keys

A flattened path such as `items[2].components.sku` names a place in nested data. Names run up to the
next dot or bracket. What stands between an opening bracket and the next closing one is an index
when it is a numeral and a name otherwise. Dots, closing brackets without an opening one, and an
opening bracket that is never closed separate names and leave no key.

Main statement: splitting a joined sequence of keys is left to the theory of joined paths; here only
the scanner and its equations are given.
-/

namespace NextWord.Path

open Text (isDigit readNat writeNat)

def bracketKey (content : List Char) : Key :=
  if content ≠ [] ∧ content.all isDigit then .index (readNat content)
  else .name (String.ofList content)

/-- The name read so far, if it is not empty. -/
def nameKey (name : List Char) : List Key :=
  if name.isEmpty then [] else [.name (String.ofList name)]

/-- Where the scanner stands: in a name, or between two brackets. -/
inductive Place
  | name
  | bracket
  deriving DecidableEq

/-- The keys of the rest of a path, after the characters `held` of the key being read. -/
def keysFrom : Place → List Char → List Char → List Key
  | .name, held, [] => nameKey held
  | .bracket, _, [] => []
  | .name, held, c :: rest =>
    if c = '[' ∧ ']' ∈ rest then nameKey held ++ keysFrom .bracket [] rest
    else if c = '[' ∨ c = ']' ∨ c = '.' then nameKey held ++ keysFrom .name [] rest
    else keysFrom .name (held ++ [c]) rest
  | .bracket, held, c :: rest =>
    if c = ']' then bracketKey held :: keysFrom .name [] rest
    else keysFrom .bracket (held ++ [c]) rest

def keys (path : List Char) : List Key :=
  keysFrom .name [] path

def split (path : String) : List Key :=
  keys path.toList

def stepText : Key → List Char
  | .index n => '[' :: writeNat n ++ [']']
  | .name text => '.' :: text.toList

/-- A sequence of keys as a path, names joined by dots and indices in brackets. -/
def join : List Key → List Char
  | [] => []
  | .name text :: more => text.toList ++ more.flatMap stepText
  | .index n :: more => stepText (.index n) ++ more.flatMap stepText

end NextWord.Path
