import NextWord.Completion.Context
import NextWord.Completion.Offer

/-!
# Names of resources and references to them

The names of the resources that an operation can be called on, and the words that refer to single
resources by their aliases. A reference to a resource of any type is typed in steps separated by
slashes, as in `alias/product/first/id`: the word that opens it, the type, the alias, and what of
the resource is meant.
-/

namespace NextWord

namespace Request

def allowsPlural (r : Request) (resource : Resource) : Bool :=
  if r.does .get || r.does .getAll then resource.getCollection.isSome
  else if r.does .delete then resource.deleteEntity.isSome
  else if r.does .deleteAll then
    resource.deleteEntity.isSome && resource.getCollection.isSome
  else true

def allowsSingular (r : Request) (resource : Resource) : Bool :=
  if r.does .create then resource.createEntity.isSome
  else if r.does .update then resource.updateEntity.isSome
  else if r.does .delete then resource.deleteEntity.isSome
  else if r.does .get then resource.getEntity.isSome
  else true

end Request

namespace Context

def pluralNames (ctx : Context) (r : Request) : List String :=
  (ctx.registry.plural.filter r.allowsPlural).map Resource.name

def singularNames (ctx : Context) (r : Request) : List String :=
  ctx.registry.singularNames.filter fun name => (ctx.registry.get? name).any r.allowsSingular

def payloadTypes (ctx : Context) : List String :=
  ctx.registry.plural.filterMap fun resource => properName? resource.jsonApiType

def ownAliases (ctx : Context) (r : Request) : Except Failure (List String) :=
  match ctx.resource? r with
  | some resource => ctx.aliasesOf r resource
  | none => .ok []

/-- The resource with a name, or else the first with a payload type. -/
def resourceOfType? (ctx : Context) (type : String) : Option Resource :=
  (ctx.registry.get? type).orElse fun _ =>
    ctx.registry.plural.find? fun resource => resource.jsonApiType == some type

/-- The words that refer to something of a resource by one of its aliases. -/
def aliasWords (resource : Resource) (name : String) : List String :=
  let base := "alias/" ++ resource.jsonApiType.getD "None" ++ "/" ++ name ++ "/"
  (base ++ "id") ::
    (Vocabulary.aliasSuffixes.filter resource.attributes.has).map (base ++ ·)

def wordsOfType (ctx : Context) (r : Request) (type : String) : Except Failure (List String) :=
  match ctx.resourceOfType? type with
  | none => .ok []
  | some resource => do
    let aliases ← ctx.aliasesOf r resource
    pure (aliases.flatMap (aliasWords resource))

/-- The next step of a reference to a resource of any type. -/
def referenceSteps (ctx : Context) (r : Request) : Except Failure Offer :=
  match r.toComplete.toList.splitOn '/' with
  | [_] => .ok ((Offer.ofTexts ["alias/"]).hinting .unfinished)
  | [_, _] =>
    .ok ((Offer.ofTexts (ctx.payloadTypes.map fun type => "alias/" ++ type ++ "/")).hinting
      .unfinished)
  | [_, type, _] => do pure (.ofTexts (← ctx.wordsOfType r (String.ofList type)))
  | [_, type, _, _] => do pure (.ofTexts (← ctx.wordsOfType r (String.ofList type)))
  | _ => .ok .none

def references (ctx : Context) (r : Request) (target : String) : Except Failure Offer :=
  if target = "*" then ctx.referenceSteps r
  else match ctx.registry.get? target with
    | some resource => do pure (.ofTexts (← ctx.aliasesOf r resource))
    | none => .ok .none

end Context
end NextWord
