import NextWord.Log.Logged
import NextWord.Text.Pieces
import NextWord.Value.Equality
import NextWord.Value.Written

/-!
# Aliases

Aliases of resources by payload type. Asked for a type and its alternates, the book answers with the
aliases of all of them, each once, in the order of code points.
-/

namespace NextWord

/-- Aliases by payload type. -/
structure AliasBook where
  aliases : Table String (List String) := []

namespace AliasBook

def empty : AliasBook := {}

/-- The aliases remembered for a type, in the order in which they were added. -/
def of (book : AliasBook) (type : String) : List String :=
  (book.aliases.find? type).getD []

def add (book : AliasBook) (type name : String) : AliasBook :=
  let known := book.of type
  ⟨book.aliases.put type (if known.contains name then known else known ++ [name])⟩

/-- The book of a table of aliases; a text in place of a list counts as its characters. -/
def ofEntries (entries : Entries) : Except Failure AliasBook :=
  entries.foldlM
    (fun book (type, names) =>
      match names.elements? with
      | some names => .ok (names.foldl (fun book name => book.add type name.display) book)
      | none => .error (.notIterable names.typeName))
    empty

def ofValue (book : AliasBook) (type : Value) : Except Failure (List String) :=
  if !type.isHashable then .error (.unhashable type.typeName)
  else match type with
    | .str type => .ok (book.of type)
    | _ => .ok []

/-- The aliases of a type and of its alternates. -/
def lookup (book : AliasBook) (type : Option String) (alternates : List Value) :
    Except Failure (List String) := do
  let own := (type.map book.of).getD []
  let others ← alternates.mapM book.ofValue
  pure (Text.sorted (own ++ others.flatten).eraseDups)

end AliasBook
end NextWord
