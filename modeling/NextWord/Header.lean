import NextWord.Completion.Request
import NextWord.Text.Lowercase

/-!
# Headers

The catalog of headers that can be offered, each with the request that completes its value, if there
is one. Names are looked up without regard to capitals and offered as they were written last; their
order is that in which they were first added.
-/

namespace NextWord

structure Header where
  name : String
  request : Option Request := none

/-- Headers by lower-case name. -/
structure HeaderCatalog where
  entries : Table String Header := []

namespace HeaderCatalog

/-- The name under which a header is kept. -/
def key (name : String) : String :=
  String.ofList (Text.lower name.toList)

/-- Adds a header, or replaces the one whose name differs in capitals only. -/
def add (catalog : HeaderCatalog) (header : Header) : HeaderCatalog :=
  ⟨catalog.entries.put (key header.name) header⟩

def addAll (catalog : HeaderCatalog) (headers : List Header) : HeaderCatalog :=
  headers.foldl add catalog

def names (catalog : HeaderCatalog) : List String :=
  catalog.entries.values.map Header.name

def requestFor (catalog : HeaderCatalog) (name : String) : Option Request :=
  (catalog.entries.find? (key name)).bind Header.request

def has (catalog : HeaderCatalog) (name : String) : Bool :=
  catalog.entries.has (key name)

def standard : List Header :=
  [{ name := "EP-Beta-Features" },
    { name := "EP-Channel" },
    { name := "EP-Context-Tag" },
    { name := "EP-Account-Management-Authentication-Token" },
    { name := "X-Moltin-Customer-Token" },
    { name := "X-Moltin-Currency", request := some { intents := Intent.currency.flag } },
    { name := "X-Moltin-Currencies" }]

def default : HeaderCatalog :=
  addAll {} standard

end HeaderCatalog
end NextWord
