import Mathlib.Data.List.Chain
import NextWord.Path.Index
import NextWord.Pattern.Segment
import NextWord.Proofs.Outcome

/-!
# Delimited patterns

A delimited pattern writes single characters and runs of plain classes, a run being followed by a
character outside its class or by the end. It can be read off a path from left to right, each run
taking all it can, and the completions that it is meant to have are told in these terms: the
characters of the pattern, with any run that was seen at its place for each of its runs, cut in
front of the first run that was never seen.
-/

namespace NextWord.Pattern

/-- A member of a plain class: a character, or all characters from one to another. -/
inductive Span
  | one (c : Char)
  | through (first last : Char)
  deriving DecidableEq, Repr

def Span.covers (c : Char) : Span → Bool
  | .one d => c == d
  | .through first last => first ≤ c && c ≤ last

def belongs (members : List Span) (c : Char) : Bool :=
  members.any (Span.covers c)

/-- How a class writes a character: as it is, or a mark behind a backslash. A closing bracket may
stand as it is only where the class begins. -/
inductive WritesChar (begins : Bool) : Char → List Char → Prop
  | plain {c : Char} (not_escape : c ≠ '\\') (not_close : c = ']' → begins = true) :
      WritesChar begins c [c]
  | escaped {c : Char} (mark : c.isAlphanum = false) : WritesChar begins c ['\\', c]

/-- How a class writes its members. A hyphen between two characters makes a range of them; as the
last character it is a member. -/
inductive WritesMembers : Bool → List Span → List Char → Prop
  | nil : WritesMembers false [] []
  | one {begins : Bool} {c : Char} {text rest : List Char} {more : List Span}
      (written : WritesChar begins c text) (noRange : rest.head? = some '-' → rest = ['-'])
      (others : WritesMembers false more rest) :
      WritesMembers begins (.one c :: more) (text ++ rest)
  | through {begins : Bool} {first last : Char} {left right rest : List Char} {more : List Span}
      (fromHere : WritesChar begins first left) (toHere : WritesChar false last right)
      (ordered : first ≤ last) (others : WritesMembers false more rest) :
      WritesMembers begins (.through first last :: more) (left ++ '-' :: (right ++ rest))

inductive WritesClass (members : List Span) : List Char → Prop
  | mk {inside : List Char} (written : WritesMembers true members inside)
      (positive : inside.head? ≠ some '^') : WritesClass members ('[' :: (inside ++ [']']))

/-- A part of a pattern: a character, or characters of a class, one at least. -/
inductive Part
  | char (c : Char)
  | run (members : List Span)
  deriving DecidableEq, Repr

namespace Part

/-- A part may stand in front of another one: a run only where it cannot take what comes next. -/
def Precedes : Part → Part → Prop
  | .char _, _ => True
  | .run members, .char c => belongs members c = false
  | .run _, .run _ => False

instance : DecidableRel Precedes
  | .char _, _ => .isTrue trivial
  | .run members, .char c => inferInstanceAs (Decidable (belongs members c = false))
  | .run _, .run _ => .isFalse id

end Part

inductive Writes : Segment → List Part → Prop
  | fixed {s : Segment} (isFixed : s.kind = .literal ∨ s.kind = .escapedMeta) :
      Writes s (s.literal.map .char)
  | class_ {s : Segment} {members : List Span} {text : List Char} (isClass : s.kind = .charClass)
      (written : WritesClass members text) (source : s.source = text ++ ['+']) :
      Writes s [.run members]
  | captured {s : Segment} {members : List Span} {text : List Char} (isGroup : s.kind = .capture)
      (written : WritesClass members text) (source : s.source = '(' :: (text ++ ['+', ')'])) :
      Writes s [.run members]

/-- A pattern that is accepted and writes these parts, no run being followed by a character that it
could take. -/
structure Delimited (pattern : List Char) (parts : List Part) : Prop where
  written : ∃ inner each, parse pattern = .ok (Segment.caret :: inner ++ [Segment.dollar]) ∧
    List.Forall₂ Writes inner each ∧ each.flatten = parts
  apart : parts.IsChain Part.Precedes

/-- Reads parts off a text from the left, each run taking all it can: what they take, and what is
left. -/
def scan : List Part → List Char → Option (List Char × List Char)
  | [], text => some ([], text)
  | .char _ :: _, [] => none
  | .char c :: more, d :: rest =>
    if c = d then (scan more rest).map fun (taken, left) => (c :: taken, left) else none
  | .run members :: more, text =>
    if text.takeWhile (belongs members) = [] then none
    else (scan more (text.dropWhile (belongs members))).map fun (taken, left) =>
      (text.takeWhile (belongs members) ++ taken, left)

section Scan

variable {c : Char} {members : List Span} {more : List Part} {text taken left : List Char}

theorem scan_char_cons (c : Char) (more : List Part) (rest : List Char) :
    scan (.char c :: more) (c :: rest) =
      (scan more rest).map fun (taken, left) => (c :: taken, left) := by
  rw [scan, if_pos rfl]

theorem scan_run_of_ne_nil (h : text.takeWhile (belongs members) ≠ []) :
    scan (.run members :: more) text =
      (scan more (text.dropWhile (belongs members))).map fun (taken, left) =>
        (text.takeWhile (belongs members) ++ taken, left) := by
  rw [scan, if_neg h]

theorem exists_of_scan_char (h : scan (.char c :: more) text = some (taken, left)) :
    ∃ rest others, text = c :: rest ∧ scan more rest = some (others, left) ∧
      taken = c :: others := by
  cases text with
  | nil => cases h
  | cons d rest =>
    by_cases hc : c = d
    · subst hc
      rw [scan_char_cons] at h
      obtain ⟨others, hothers, rfl⟩ := exists_of_map_append [c] h
      exact ⟨rest, others, rfl, hothers, rfl⟩
    · rw [scan, if_neg hc] at h
      cases h

theorem exists_of_scan_run (h : scan (.run members :: more) text = some (taken, left)) :
    text.takeWhile (belongs members) ≠ [] ∧
      ∃ others, scan more (text.dropWhile (belongs members)) = some (others, left) ∧
        taken = text.takeWhile (belongs members) ++ others := by
  by_cases hvalue : text.takeWhile (belongs members) = []
  · rw [scan, if_pos hvalue] at h
    cases h
  · rw [scan_run_of_ne_nil hvalue] at h
    obtain ⟨⟨others, last⟩, hothers, heq⟩ := Option.map_eq_some_iff.mp h
    obtain ⟨rfl, rfl⟩ := Prod.mk.inj heq
    exact ⟨hvalue, others, hothers, rfl⟩

/-- What is taken and what is left make up the text, and each part takes a character at least. -/
theorem append_of_scan {parts : List Part} (h : scan parts text = some (taken, left)) :
    text = taken ++ left ∧ parts.length ≤ taken.length := by
  induction parts generalizing text taken with
  | nil =>
    obtain ⟨rfl, rfl⟩ := Prod.mk.inj (Option.some.inj h)
    simp
  | cons part more ih =>
    cases part with
    | char c =>
      obtain ⟨rest, others, rfl, hothers, rfl⟩ := exists_of_scan_char h
      obtain ⟨hrest, hlength⟩ := ih hothers
      exact ⟨by rw [hrest, List.cons_append], by simpa using hlength⟩
    | run members =>
      obtain ⟨hvalue, others, hothers, rfl⟩ := exists_of_scan_run h
      obtain ⟨hrest, hlength⟩ := ih hothers
      have hpositive := List.length_pos_iff.mpr hvalue
      refine ⟨?_, ?_⟩
      · rw [List.append_assoc, ← hrest, List.takeWhile_append_dropWhile]
      · rw [List.length_cons, List.length_append]
        omega

theorem scan_append (parts others : List Part) (text : List Char) :
    scan (parts ++ others) text =
      (scan parts text).bind fun (taken, left) =>
        (scan others left).map fun (more, rest) => (taken ++ more, rest) := by
  induction parts generalizing text with
  | nil => cases h : scan others text <;> simp [scan, h]
  | cons part parts ih =>
    cases part with
    | char c =>
      cases text with
      | nil => rfl
      | cons d rest =>
        by_cases hc : c = d
        · simp [scan, hc, ih, Option.map_bind, Option.bind_map, Function.comp_def]
        · simp [scan, hc]
    | run members =>
      by_cases hvalue : text.takeWhile (belongs members) = []
      · simp [scan, hvalue]
      · simp [scan, hvalue, ih, Option.map_bind, Option.bind_map, Function.comp_def]

end Scan

/-- A value of a run behind other parts: what it takes of an observed path that starts with them. -/
def IsValue (paths : List (List Char)) (before : List Part) (members : List Span)
    (value : List Char) : Prop :=
  value ≠ [] ∧ ∃ path ∈ paths, ∃ taken left, scan before (Path.fold path) = some (taken, left) ∧
    value = left.takeWhile (belongs members)

/-- The completions of parts behind others: characters as they are, any value for a run, and nothing
from the first run on that has no value. -/
inductive Completes (paths : List (List Char)) : List Part → List Part → List Char → Prop
  | finish {before : List Part} : Completes paths before [] []
  | char {before more : List Part} {c : Char} {text : List Char}
      (rest : Completes paths (before ++ [.char c]) more text) :
      Completes paths before (.char c :: more) (c :: text)
  | value {before more : List Part} {members : List Span} {value text : List Char}
      (isValue : IsValue paths before members value)
      (rest : Completes paths (before ++ [.run members]) more text) :
      Completes paths before (.run members :: more) (value ++ text)
  | cut {before more : List Part} {members : List Span}
      (noValue : ∀ value, ¬ IsValue paths before members value) :
      Completes paths before (.run members :: more) []

end NextWord.Pattern
