import NextWord.Completion.Names
import NextWord.Filter.Completion

/-!
# Query parameters

The names of the query parameters of an operation that reads, those that its definition declares
before those that every such operation has, and the values of the parameters that sort, filter and
count a list.
-/

namespace NextWord.Context

def declaredParameters (operation : Option Operation) : List Value :=
  match operation with
  | some operation => operation.queryParameters
  | none => []

def queryKeys (ctx : Context) (r : Request) : List Value :=
  let resource := ctx.resource? r
  if r.does .getAll then
    declaredParameters (resource.bind Resource.getCollection) ++
      Vocabulary.listParameters.map Value.str
  else if r.does .get then
    declaredParameters (resource.bind Resource.getEntity) ++
      Vocabulary.readParameters.map Value.str
  else []

/-- The keys to sort by, each in both directions. -/
def sortKeys (resource : Option Resource) : List String :=
  let keys := ((resource.map fun found => found.attributes.keys).getD []) ++
    Vocabulary.sortImplicitFields
  keys.flatMap fun key => [key, "-" ++ key]

/-- The literal keys of a resource, which can be filtered on. -/
def filterFields (resource : Option Resource) : List String :=
  (resource.map fun found => found.literalAttributes.map Attribute.key).getD []

def queryValues (ctx : Context) (r : Request) : Offer :=
  if !r.does .getAll then .none
  else match r.queryParam with
    | "sort" => .ofTexts (sortKeys (ctx.resource? r))
    | "filter" =>
      (Offer.ofTexts (Filter.complete r.toComplete (filterFields (ctx.resource? r)))).hinting
        .unfinished
    | "page[total_method]" => .ofTexts Vocabulary.totalMethods
    | _ => .none

end NextWord.Context
