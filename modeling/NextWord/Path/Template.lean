import NextWord.Path.Index
import NextWord.Text.Pieces

/-!
# Templates

A template is a path with holes `[n]`. Writing one index per hole gives an instance of it. Given the
paths already supplied, a template is resolved to the paths worth offering next: one for each hole,
which moves to the first index beyond those seen there while the other holes stay at the highest
index seen. An instance followed by one line break counts like the instance itself.
-/

namespace NextWord.Path

open Text (after? isDigit readNat writeNat)

/-- A path with holes: the text before the first one, and the text behind each. -/
structure Template where
  head : List Char
  tail : List (List Char)
  deriving DecidableEq, Repr

namespace Template

def ofText : List Char → Template
  | [] => ⟨[], []⟩
  | '[' :: 'n' :: ']' :: rest =>
    let t := ofText rest
    ⟨[], t.head :: t.tail⟩
  | c :: rest =>
    let t := ofText rest
    ⟨c :: t.head, t.tail⟩

def holeCount (t : Template) : Nat :=
  t.tail.length

def indexText (n : Nat) : List Char :=
  '[' :: writeNat n ++ [']']

def fillTail : List Nat → List (List Char) → List Char
  | n :: indices, piece :: pieces => indexText n ++ piece ++ fillTail indices pieces
  | _, _ => []

def fill (t : Template) (indices : List Nat) : List Char :=
  t.head ++ fillTail indices t.tail

def readTail? : List (List Char) → List Char → Option (List Nat × List Char)
  | [], text => some ([], text)
  | piece :: pieces, text =>
    match openingIndex? text with
    | none => none
    | some digits =>
      match after? piece (text.drop (digits.length + 2)) with
      | none => none
      | some rest =>
        (readTail? pieces rest).map fun (indices, left) => (readNat digits :: indices, left)

/-- Reads an instance at the start of a text: its indices, and the text left. -/
def read? (t : Template) (text : List Char) : Option (List Nat × List Char) :=
  match after? t.head text with
  | none => none
  | some rest => readTail? t.tail rest

/-- The indices of a path that is an instance, a line break at its end aside. -/
def indicesOf? (t : Template) (path : List Char) : Option (List Nat) :=
  match t.read? path with
  | some (indices, []) => some indices
  | some (indices, ['\n']) => some indices
  | _ => none

def raise (t : Template) (highest : List Int) (path : List Char) : List Int :=
  match t.indicesOf? path with
  | some indices => List.zipWith (fun h (n : Nat) => max h (n : Int)) highest indices
  | none => highest

/-- The highest index seen at each hole, -1 where none was. -/
def highest (t : Template) (supplied : List (List Char)) : List Int :=
  supplied.foldl t.raise (List.replicate t.holeCount (-1))

/-- The indices offered when hole `moved` moves on. -/
def offered (highest : List Int) (moved : Nat) : List Nat :=
  highest.mapIdx fun p h => if p = moved then (h + 1).toNat else h.toNat

/-- The paths worth offering next, the template itself when it has no hole. -/
def resolve (t : Template) (supplied : List (List Char)) : List (List Char) :=
  if t.holeCount = 0 then [t.head]
  else
    let highest := t.highest supplied
    (List.range t.holeCount).map fun moved => t.fill (offered highest moved)

end Template

def resolveHoles (template : String) (supplied : List String) : List String :=
  ((Template.ofText template.toList).resolve (supplied.map String.toList)).map String.ofList

end NextWord.Path
