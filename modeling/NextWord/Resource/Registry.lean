import NextWord.Resource.Loading

/-!
# The registry of resources

Resources are kept by plural name, in the order in which the names were first added, and are also
found by singular name. Adding a resource under a known name replaces it; a singular name keeps
pointing to the last resource that was added with it.
-/

namespace NextWord

structure Registry where
  resources : Table String Resource := []
  singular : Table String Resource := []

namespace Registry

def empty : Registry := {}

/-- Adds a resource, or replaces the one of the same plural name. -/
def add (registry : Registry) (r : Resource) : Registry where
  resources := registry.resources.put r.name r
  singular :=
    match properName? r.singularName with
    | some name => registry.singular.put name r
    | none => registry.singular

def get? (registry : Registry) (name : String) : Option Resource :=
  (registry.resources.find? name).orElse fun _ => registry.singular.find? name

def plural (registry : Registry) : List Resource :=
  registry.resources.values

def singularNames (registry : Registry) : List String :=
  registry.singular.keys

def attributesOf (registry : Registry) (name : String) : List Attribute :=
  match registry.get? name with
  | some r => r.attributes.values
  | none => []

def loadInto : Reading Registry → Entries → Logged (Reading Registry)
  | reading, [] => pure reading
  | reading, (name, definition) :: rest => do
    let next ← Resource.read name definition
    loadInto ⟨reading.value.add next.value, reading.problems ++ next.problems⟩ rest

def load (definitions : Entries) : Logged (Reading Registry) :=
  loadInto ⟨empty, []⟩ definitions

/-- Puts an attribute into a resource without any check. -/
def putAttribute (registry : Registry) (name : String) (a : Attribute) : Registry :=
  match registry.get? name with
  | none => registry
  | some found =>
    let change (r : Resource) : Resource :=
      if r.name = found.name then { r with attributes := r.attributes.put a.key a } else r
    { resources := registry.resources.map fun (key, r) => (key, change r)
      singular := registry.singular.map fun (key, r) => (key, change r) }

end Registry
end NextWord
