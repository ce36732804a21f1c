import NextWord.Completion.Names
import NextWord.Completion.Snippet
import NextWord.Path.Template
import NextWord.Pattern.Tree
import NextWord.Predicate.Visibility

/-!
# Keys and values of attributes

Keys: every literal attribute offers the paths that fill its holes and that are still free, provided
its conditions hold there. The patterns of a resource are put into one tree, which learns from the
paths already supplied, and its completions are filled likewise. A condition that cannot be decided
counts as true and a pattern that cannot be read is left out; both are reported.

Values: what the kind of the attribute allows, and template snippets where they are wanted.
-/

namespace NextWord

/-- The paths of a template that are not supplied yet. -/
def Request.freePaths (r : Request) (template : String) : List String :=
  (Path.resolveHoles template r.supplied.keys).filter fun path => !r.supplied.has path

/-- What the answer of a predicate for a path comes to: one that cannot be decided is reported and
counts as true. -/
def Predicate.settled (path : String) : Except PredicateFault Bool → Logged Bool
  | .ok visible => .pure visible
  | .error fault =>
    if fault.isOwn then
      ⟨[.warning s!"Can't decide whether {path} applies, offering it anyway: {fault.message}"],
        .ok true⟩
    else .fail .integerTooLarge

namespace Judge

/-- Asks a judge whether an attribute is offered under a path, as any attribute is where nothing is
checked. -/
def ask (unchecked : Bool) (j : Judge) (a : Attribute) (path : String) : Judge × Logged Bool :=
  if unchecked || !a.isConditional then (j, .pure true)
  else
    let (j, answer) := j.decide a path
    (j, Predicate.settled path answer)

/-- The paths under which attributes are offered, one judge being asked about all of them. -/
def offeredPaths (unchecked : Bool) : Judge → List (Attribute × String) → Logged (List String)
  | _, [] => .pure []
  | j, (a, path) :: rest =>
    let (j, answer) := j.ask unchecked a path
    answer.bind fun offered =>
      (offeredPaths unchecked j rest).bind fun others =>
        .pure (if offered then path :: others else others)

end Judge

namespace Context

def isOffered (ctx : Context) (r : Request) (env : Environment) (a : Attribute) (path : String) :
    Logged Bool :=
  if ctx.skipVisibility r || !a.isConditional then .pure true
  else Predicate.settled path (Predicate.isVisible env a path)

def literalPaths (ctx : Context) (r : Request) (attributes : List Attribute) :
    Logged (List String) :=
  (Judge.ofState r.known r.supplied).offeredPaths (ctx.skipVisibility r)
    (attributes.flatMap fun a => (r.freePaths a.key).map fun path => (a, path))

/-- Puts pattern keys into a tree; those that cannot be read are reported. -/
def growTree (resource : String) : PatternTree → List Attribute → Logged PatternTree
  | tree, [] => pure tree
  | tree, a :: rest =>
    match tree.add a.key.toList with
    | .ok grown => growTree resource grown rest
    | .error .tooManyRounds => .fail .tooManyRounds
    | .error fault => do
      Logged.write [.warning s!"Skipping attribute {a.key} of {resource}: {fault.message a.key}"]
      growTree resource tree rest

/-- The completions of a tree that has seen the supplied paths. -/
def learnedKeys (r : Request) (tree : PatternTree) : List String :=
  (r.supplied.keys.foldl (fun tree path => tree.observe path.toList) tree).completions.map
    String.ofList

def attributeKeys (ctx : Context) (r : Request) : Logged (List String) :=
  match ctx.resource? r with
  | none => pure []
  | some resource => do
    let literal ← ctx.literalPaths r resource.literalAttributes
    let tree ← growTree resource.name .empty resource.patternAttributes
    pure (literal ++ (learnedKeys r tree).flatMap r.freePaths)

def valuesOf (ctx : Context) (r : Request) (type : AttributeType) : Except Failure Offer :=
  match type.kind with
  | .bool => .ok (.ofTexts Vocabulary.boolLiterals)
  | .enum => .ok (.ofTexts type.enumValues)
  | .url => .ok ((Offer.ofTexts ["https://"]).hinting .unfinished)
  | .resourceRef => ctx.references r type.target
  | .singularResourceName => .ok (.ofTexts ctx.registry.singularNames)
  | .jsonApiTypeName => .ok (.ofTexts ctx.payloadTypes)
  | .currency => .ok (.ofTexts Vocabulary.currencies)
  | .file =>
    .ok ((Offer.ofTexts ((ctx.settings.list "file_extensions").map Value.display)).hinting .files)
  | .string => .ok .none
  | .conditional => .ok .none

def attribute? (ctx : Context) (r : Request) : Except Failure (Option Attribute) :=
  match ctx.resource? r with
  | some resource => resource.findAttribute r.attributePath
  | none => .ok none

def attributeValues (ctx : Context) (r : Request) : Except Failure Offer :=
  if r.attributePath = "" then .ok .none
  else do
    let declared ←
      match ← ctx.attribute? r with
      | some a => ctx.valuesOf r a.type
      | none => pure .none
    let snippets := if ctx.allowTemplates r then Snippet.all r.toComplete ctx.variableNames else []
    pure { declared with candidates := declared.candidates ++ snippets.map Value.str }

end Context
end NextWord
