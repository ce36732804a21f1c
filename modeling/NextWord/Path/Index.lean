import NextWord.Text.DecimalDigit

/-!
# Indices in a path

An index is a numeral between brackets. Folding a path writes `[n]` for each of its indices, so that
all elements of an array share one form. Both functions walk along the path; after an index has been
read, `skip` counts its characters that are still to be passed over. Indices are unbounded, however
many digits they have.
-/

namespace NextWord.Path

open Text (isDigit readNat)

/-- The digits of the index that opens the text, if one does. -/
def openingIndex? : List Char → Option (List Char)
  | '[' :: rest =>
    let digits := rest.takeWhile isDigit
    match digits, rest.dropWhile isDigit with
    | d :: ds, ']' :: _ => some (d :: ds)
    | _, _ => none
  | _ => none

def hole : List Char := ['[', 'n', ']']

def foldFrom : Nat → List Char → List Char
  | _, [] => []
  | skip + 1, _ :: rest => foldFrom skip rest
  | 0, c :: rest =>
    match openingIndex? (c :: rest) with
    | some digits => hole ++ foldFrom (digits.length + 1) rest
    | none => c :: foldFrom 0 rest

/-- A path with every index replaced by a hole. -/
def fold (path : List Char) : List Char :=
  foldFrom 0 path

def indicesFrom : Nat → List Char → List Nat
  | _, [] => []
  | skip + 1, _ :: rest => indicesFrom skip rest
  | 0, c :: rest =>
    match openingIndex? (c :: rest) with
    | some digits => readNat digits :: indicesFrom (digits.length + 1) rest
    | none => indicesFrom 0 rest

def indices (path : List Char) : List Nat :=
  indicesFrom 0 path

def foldIndices (path : String) : String :=
  String.ofList (fold path.toList)

theorem foldFrom_eq_drop (skip : Nat) (text : List Char) :
    foldFrom skip text = fold (text.drop skip) := by
  induction skip generalizing text with
  | zero => simp [fold]
  | succ skip ih =>
    cases text with
    | nil => simp [foldFrom, fold]
    | cons c rest => simpa [foldFrom] using ih rest

theorem indicesFrom_eq_drop (skip : Nat) (text : List Char) :
    indicesFrom skip text = indices (text.drop skip) := by
  induction skip generalizing text with
  | zero => simp [indices]
  | succ skip ih =>
    cases text with
    | nil => simp [indicesFrom, indices]
    | cons c rest => simpa [indicesFrom] using ih rest

end NextWord.Path
