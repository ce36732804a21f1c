import NextWord.Alias
import NextWord.Header
import NextWord.Resource.Registry
import NextWord.Settings.Basic

/-!
# Context of a completion

What all requests share: the resources, the aliases if there are any, the headers, the settings, and
the names of the variables that templates can read. A request that leaves a flag open gets what the
settings say.
-/

namespace NextWord

/-- What completion draws on besides the request. -/
structure Context where
  registry : Registry := .empty
  aliases : Option AliasBook := none
  headers : HeaderCatalog := .default
  settings : Configuration := Settings.default
  variableNames : List String := []

namespace Context

/-- A flag of a request, or the setting of that name where the request leaves it open. -/
def flag (ctx : Context) (own : Option Bool) (name : String) : Bool :=
  own.getD (ctx.settings.bool name)

def noAliases (ctx : Context) (r : Request) : Bool :=
  ctx.flag r.noAliases "no_aliases"

def allowTemplates (ctx : Context) (r : Request) : Bool :=
  ctx.flag r.allowTemplates "allow_templates"

/-- Whether attributes are offered whatever their conditions. -/
def skipVisibility (ctx : Context) (r : Request) : Bool :=
  ctx.flag r.skipVisibility "skip_visibility"

/-- The resource that a request is about, if it names one that is known. -/
def resource? (ctx : Context) (r : Request) : Option Resource :=
  if r.resource = "" then none else ctx.registry.get? r.resource

def aliasesOf (ctx : Context) (r : Request) (resource : Resource) :
    Except Failure (List String) :=
  if ctx.noAliases r then .ok []
  else match ctx.aliases with
    | some book => book.lookup resource.jsonApiType resource.alternateTypes
    | none => .ok []

end Context
end NextWord
