import NextWord.Value.Basic

/-!
# Requests

A request says what is to be completed and how far the command line has come. What is wanted is a
set of intents, the operation a set of verbs; both are kept as the number whose bits stand for the
members, so that unknown bits survive.
-/

namespace NextWord

/-- Things that can be completed, in the order of their bits. -/
inductive Intent
  | pluralResource
  | singularResource
  | attributeKey
  | attributeValue
  | queryParamKey
  | queryParamValue
  | crudAction
  | aliases
  | loginApi
  | loginClientId
  | loginClientSecret
  | loginAccountManagementKey
  | headerKey
  | headerValue
  | currency
  | bool
  deriving DecidableEq, Repr

namespace Intent

def bit : Intent → Nat
  | .pluralResource => 0
  | .singularResource => 1
  | .attributeKey => 2
  | .attributeValue => 3
  | .queryParamKey => 4
  | .queryParamValue => 5
  | .crudAction => 6
  | .aliases => 7
  | .loginApi => 8
  | .loginClientId => 9
  | .loginClientSecret => 10
  | .loginAccountManagementKey => 11
  | .headerKey => 12
  | .headerValue => 13
  | .currency => 14
  | .bool => 15

def flag (intent : Intent) : Nat :=
  Nat.pow 2 intent.bit

def bitCount : Nat := 16

end Intent

/-- Operations that a command line builds, in the order of their bits. -/
inductive Verb
  | get
  | create
  | update
  | delete
  | getAll
  | deleteAll
  deriving DecidableEq, Repr

namespace Verb

def bit : Verb → Nat
  | .get => 0
  | .create => 1
  | .update => 2
  | .delete => 3
  | .getAll => 4
  | .deleteAll => 5

def bitCount : Nat := 6

end Verb

/-- The set that an integer stands for; a negative one has all bits from some place on, of which
those up to the greatest known one, or the greatest of the integer itself, are kept. -/
def maskOfInt (bitCount : Nat) (i : Int) : Nat :=
  match i with
  | .ofNat n => n
  | .negSucc n =>
    let length := if n + 1 = 0 then 0 else (n + 1).log2 + 1
    max (Nat.pow 2 bitCount) (Nat.pow 2 length) - (n + 1)

/-- What to complete, and the state of the command line. -/
structure Request where
  intents : Nat := 0
  resource : String := ""
  /-- Attribute paths already given, with the texts of their values. -/
  supplied : Entries := []
  /-- Values already stored, when something is updated. -/
  known : Entries := []
  verb : Nat := 0
  attributePath : String := ""
  queryParam : String := ""
  header : String := ""
  /-- The word typed so far. -/
  toComplete : String := ""
  /-- Never offer aliases; the settings decide where nothing is said. -/
  noAliases : Option Bool := none
  /-- Offer template snippets; the settings decide where nothing is said. -/
  allowTemplates : Option Bool := none
  /-- Offer attributes whatever their conditions; the settings decide where nothing is said. -/
  skipVisibility : Option Bool := none

namespace Request

def wants (r : Request) (intent : Intent) : Bool :=
  r.intents.testBit intent.bit

def does (r : Request) (verb : Verb) : Bool :=
  r.verb.testBit verb.bit

end Request

structure Directive where
  noSpace : Bool := false
  noFiles : Bool := false
  onlyFilesWithExtension : Bool := false
  deriving DecidableEq, Repr

namespace Directive

/-- Candidates that are no files, the usual case. -/
def usual : Directive := { noFiles := true }

def toNat (d : Directive) : Nat :=
  (if d.noSpace then 2 else 0) + (if d.noFiles then 4 else 0) +
    (if d.onlyFilesWithExtension then 8 else 0)

end Directive
end NextWord
