import NextWord.Regex.Syntax

/-!
# Positions, marks and attempts

What a matcher works with: a position in a text, the marks where groups started and ended, and what
an attempt to match leaves behind, whether it succeeded or not.

A start and an end of a group are marked apart. A group that starts anew therefore keeps the end of
its last round until the new one is reached, and until then it counts as a group without a text
unless that end is not before the new start.
-/

namespace NextWord.Regex

structure Cursor where
  /-- What stands to the left, in reverse. -/
  before : List Char
  rest : List Char
  deriving DecidableEq, Repr

namespace Cursor

def offset (s : Cursor) : Nat :=
  s.before.length

def text (s : Cursor) : List Char :=
  s.before.reverse ++ s.rest

def back? : Nat → Cursor → Option Cursor
  | 0, s => some s
  | n + 1, s =>
    match s.before with
    | c :: before => back? n ⟨before, c :: s.rest⟩
    | [] => none

/-- Moves over a text that stands here, up to case if that is ignored. -/
def over? (folding : Folding) : List Char → Cursor → Option Cursor
  | [], s => some s
  | c :: text, s =>
    match s.rest with
    | d :: rest =>
      if folding.lowered c = folding.lowered d then over? folding text ⟨d :: s.before, rest⟩
      else none
    | [] => none

def wordBefore (asciiOnly : Bool) (s : Cursor) : Bool :=
  match s.before with
  | c :: _ => CharClass.word.contains asciiOnly c
  | [] => false

def wordAfter (asciiOnly : Bool) (s : Cursor) : Bool :=
  match s.rest with
  | c :: _ => CharClass.word.contains asciiOnly c
  | [] => false

def inEmptyText (s : Cursor) : Bool :=
  s.before.isEmpty && s.rest.isEmpty

/-- Whether an anchor holds here. An empty text has no word edges, nor places that are not word
edges. -/
def holds (s : Cursor) : Anchor → Bool
  | .textStart => s.before.isEmpty
  | .textEnd => s.rest.isEmpty
  | .start ofLines => s.before.isEmpty || (ofLines && s.before.head? == some '\n')
  | .finish ofLines =>
    s.rest.isEmpty || s.rest == ['\n'] || (ofLines && s.rest.head? == some '\n')
  | .wordEdge asciiOnly =>
    !s.inEmptyText && (s.wordBefore asciiOnly != s.wordAfter asciiOnly)
  | .notWordEdge asciiOnly =>
    !s.inEmptyText && (s.wordBefore asciiOnly == s.wordAfter asciiOnly)

end Cursor

/-- Where groups started and ended last: entry `2 * n` is the start of group `n` and the entry behind
it the end. -/
abbrev Marks := List (Option Nat)

namespace Marks

/-- Marks an entry; the entries that are skipped over are unset. -/
def put (marks : Marks) (entry offset : Nat) : Marks :=
  if entry < marks.length then marks.set entry (some offset)
  else marks ++ List.replicate (entry - marks.length) none ++ [some offset]

/-- The start and the end of a group, if it has a text. -/
def span? (marks : Marks) (n : Nat) : Option (Nat × Nat) :=
  match marks[2 * n]?, marks[2 * n + 1]? with
  | some (some start), some (some finish) =>
    if start ≤ finish then some (start, finish) else none
  | _, _ => none

end Marks

structure Trace where
  marks : Marks := []
  /-- Where the match ended or, when it failed, where the last try of it had begun. -/
  resume : Cursor
  deriving DecidableEq, Repr

namespace Trace

/-- The trace of a try that begins here. -/
def at_ (t : Trace) (s : Cursor) : Trace :=
  { t with resume := s }

def mark (t : Trace) (entry : Nat) (s : Cursor) : Trace :=
  { t with marks := t.marks.put entry s.offset }

/-- The marks after a failed try, `saved` being those before it: inside a repeated part they are
restored, elsewhere only those are dropped that were added behind the last one. -/
def undo (repeating : Bool) (saved : Marks) (t : Trace) : Trace :=
  { t with marks := if repeating then saved else t.marks.take saved.length }

def groupText? (t : Trace) (n : Nat) (s : Cursor) : Option (List Char) :=
  (t.marks.span? n).map fun (start, finish) => (s.text.drop start).take (finish - start)

end Trace

inductive Outcome
  | found (t : Trace)
  | failed (t : Trace)
  deriving DecidableEq, Repr

/-- What follows a part of a match: the rest of it, which succeeds or not. -/
abbrev Next := Cursor → Trace → Outcome

/-- One round of a repetition, followed by the rest of the match. -/
abbrev Round := Cursor → Trace → Next → Outcome

def done : Next := fun s t => .found (t.at_ s)

end NextWord.Regex
