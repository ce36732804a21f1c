import NextWord.Completion.Attributes
import NextWord.Completion.Query

/-!
# Answers

A request is answered by the offers of its intents, in a fixed order of intents, with repeated
candidates dropped, and then escaped for the shell if the settings want it. The value of a header is
completed by the request that the catalog gives for it, of which only the candidates count. Such a
request may ask for the value of a header in turn; more requests inside one another than there are
headers never come to an end.
-/

namespace NextWord

structure Answer where
  candidates : List Value
  directive : Directive

namespace Intent

/-- All intents, in the order in which their offers are put together. -/
def inOrder : List Intent :=
  [.pluralResource, .singularResource, .crudAction, .loginApi, .bool, .loginClientId,
    .loginClientSecret, .attributeKey, .attributeValue, .queryParamKey, .aliases, .queryParamValue,
    .loginAccountManagementKey, .headerKey, .headerValue, .currency]

end Intent

namespace Answer

/-- Keeps the first of equal candidates. -/
def distinct : List Value → List Value
  | [] => []
  | v :: rest => v :: (distinct rest).filter fun w => !v.same w

/-- The answer made of offers; a list or an object is no candidate. -/
def ofOffers (offers : List Offer) : Except Failure Answer :=
  let candidates := offers.flatMap Offer.candidates
  match candidates.find? fun v => !v.isHashable with
  | some v => .error (.unhashable v.typeName)
  | none => .ok ⟨distinct candidates, Offer.directive offers⟩

def escapeSpaces : List Char → List Char
  | [] => []
  | c :: rest => if c = ' ' then '\\' :: c :: escapeSpaces rest else c :: escapeSpaces rest

def unescapeSpaces : List Char → List Char
  | '\\' :: ' ' :: rest => ' ' :: unescapeSpaces rest
  | c :: rest => c :: unescapeSpaces rest
  | [] => []

theorem escapeSpaces_head_ne (text : List Char) : (escapeSpaces text).head? ≠ some ' ' := by
  cases text with
  | nil => simp [escapeSpaces]
  | cons c rest =>
    rw [escapeSpaces]
    split
    · simp
    · simpa using by assumption

theorem unescapeSpaces_cons {c : Char} {rest : List Char} (h : c ≠ '\\' ∨ rest.head? ≠ some ' ') :
    unescapeSpaces (c :: rest) = c :: unescapeSpaces rest := by
  rw [unescapeSpaces]
  rintro more rfl rfl
  simp at h

theorem unescapeSpaces_escapeSpaces (text : List Char) :
    unescapeSpaces (escapeSpaces text) = text := by
  induction text with
  | nil => rfl
  | cons c rest ih =>
    rw [escapeSpaces]
    split
    · next h => rw [h, unescapeSpaces, ih]
    · rw [unescapeSpaces_cons (Or.inr (escapeSpaces_head_ne rest)), ih]

def escape : Value → Except Failure Value
  | .str text => .ok (.str (String.ofList (escapeSpaces text.toList)))
  | v => .error (.notText v.typeName)

end Answer

namespace Context

/-- The offer of one intent, the completion of inner requests being given. -/
def offer (ctx : Context) (inner : Request → Logged Answer) (r : Request) : Intent → Logged Offer
  | .pluralResource => pure (.ofTexts (ctx.pluralNames r))
  | .singularResource => pure (.ofTexts (ctx.singularNames r))
  | .crudAction => pure (.ofTexts Vocabulary.crudActions)
  | .loginApi => pure (.ofTexts ["api"])
  | .bool => pure (.ofTexts Vocabulary.boolLiterals)
  | .loginClientId => pure (.ofTexts ["client_id"])
  | .loginClientSecret => pure (.ofTexts ["client_secret"])
  | .attributeKey => do pure (.ofTexts (← ctx.attributeKeys r))
  | .attributeValue => .ofExcept (ctx.attributeValues r)
  | .queryParamKey => pure ⟨ctx.queryKeys r, .plain⟩
  | .aliases => do pure (.ofTexts (← Logged.ofExcept (ctx.ownAliases r)))
  | .queryParamValue => pure (ctx.queryValues r)
  | .loginAccountManagementKey => pure (.ofTexts Vocabulary.accountManagementKeys)
  | .headerKey => pure (.ofTexts ctx.headers.names)
  | .headerValue =>
    match ctx.headers.requestFor r.header with
    | some nested => do pure ⟨(← inner nested).candidates, .plain⟩
    | none => pure .none
  | .currency => pure (.ofTexts Vocabulary.currencies)

/-- The answer before escaping; the number bounds how many requests may stand inside one another. -/
def collect (ctx : Context) : Nat → Request → Logged Answer
  | 0, _ => .fail .endlessHeaders
  | depth + 1, r => do
    let offers ← Logged.each (ctx.offer (ctx.collect depth) r) (Intent.inOrder.filter r.wants)
    Logged.ofExcept (Answer.ofOffers offers)

/-- How many requests can stand inside one another without a header coming up again. -/
def depth (ctx : Context) : Nat :=
  ctx.headers.entries.length + 1

def complete (ctx : Context) (r : Request) : Logged Answer := do
  let answer ← ctx.collect ctx.depth r
  if ctx.settings.bool "escape_spaces" then
    let candidates ← Logged.ofExcept (answer.candidates.mapM Answer.escape)
    pure { answer with candidates }
  else pure answer

end Context
end NextWord
