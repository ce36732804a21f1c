import NextWord.Completion.Request

/-!
# Offers

An offer is what one intent contributes to a completion: candidates, and a hint on how they want to
be presented. Candidates are texts as a rule; a query parameter keeps the name that its definition
gives it, whatever that is.
-/

namespace NextWord

/-- How the candidates of an offer want to be presented. -/
inductive Hint
  | plain
  /-- The word goes on behind the candidate, so no space may follow it. -/
  | unfinished
  /-- The candidates are extensions of the files to offer. -/
  | files
  deriving DecidableEq, Repr

namespace Hint

/-- A directive changed by a hint; files replace what was asked for before. -/
def change : Hint → Directive → Directive
  | .plain, d => d
  | .unfinished, d => { d with noSpace := true }
  | .files, _ => { onlyFilesWithExtension := true }

end Hint

structure Offer where
  candidates : List Value
  hint : Hint := .plain

namespace Offer

def none : Offer := ⟨[], .plain⟩

def ofTexts (texts : List String) : Offer :=
  ⟨texts.map Value.str, .plain⟩

def hinting (offer : Offer) (hint : Hint) : Offer :=
  { offer with hint }

/-- The directive for several offers, each changing what the ones before it asked for. -/
def directive (offers : List Offer) : Directive :=
  offers.foldl (fun d offer => offer.hint.change d) .usual

theorem directive_append_singleton (offers : List Offer) (offer : Offer) :
    directive (offers ++ [offer]) = offer.hint.change (directive offers) := by
  simp [directive]

end Offer
end NextWord
