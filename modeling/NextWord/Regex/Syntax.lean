import NextWord.Regex.CharTest

/-!
# Regular expressions

The expressions that pattern keys are made of: tests on one character, sequences, alternatives,
numbered groups and references to them, anchors, conditions on what stands around, atomic groups,
and repetition that is greedy, lazy or possessive. Options in force at a place are resolved when the
expression is read, so every part knows by itself how it compares characters.

Alternatives form a chain that ends in the expression which never matches. Repetition of a single
test has a form of its own, since all its rounds are counted before anything behind it is tried.
-/

namespace NextWord

/-- Conditions on a position. The signs `^` and `$` may take every line for a text of its own. -/
inductive Anchor
  | textStart
  | textEnd
  | start (ofLines : Bool)
  | finish (ofLines : Bool)
  | wordEdge (asciiOnly : Bool)
  | notWordEdge (asciiOnly : Bool)
  deriving DecidableEq, Repr

inductive Greed
  | greedy
  | lazy
  | possessive
  deriving DecidableEq, Repr

inductive Regex
  | empty
  | never
  | one (test : CharTest)
  | seq (first second : Regex)
  | alt (first others : Regex)
  | group (n : Nat) (body : Regex)
  | groupText (n : Nat) (folding : Folding)
  | anchor (a : Anchor)
  | ahead (positive : Bool) (body : Regex)
  | behind (positive : Bool) (width : Nat) (body : Regex)
  | atomic (body : Regex)
  | ifGroup (n : Nat) (yes no : Regex)
  | repOne (greed : Greed) (least : Nat) (most : Option Nat) (test : CharTest)
  | rep (greed : Greed) (least : Nat) (most : Option Nat) (body : Regex)
  deriving DecidableEq, Repr

namespace Regex

/-- Whether two places with this expression are alike: an anchor, a test or a reference. -/
def isSimple : Regex → Bool
  | .one _ => true
  | .groupText _ _ => true
  | .anchor _ => true
  | _ => false

/-- Repetition, of a single test or of anything else. -/
def repeated (greed : Greed) (least : Nat) (most : Option Nat) : Regex → Regex
  | .one test => .repOne greed least most test
  | body => .rep greed least most body

def choice (alternatives : List Regex) : Regex :=
  alternatives.foldr .alt .never

end Regex
end NextWord
