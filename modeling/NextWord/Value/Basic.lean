import NextWord.Number.Binary64
import NextWord.Table

/-!
# Values

The dynamic data that definitions, settings and attribute states are made of. Objects keep the order
of their keys; a key is a name, or an index where an array was rebuilt from its flattened entries.
Besides the values of a data file there is `absent`, what is read where nothing was given, and
`moment`, a date or time of a settings file, of which only the kind and the text are kept.
-/

namespace NextWord

/-- A step into a value: the name of a member or the index of an element. -/
inductive Key
  | index (n : Nat)
  | name (text : String)
  deriving DecidableEq, Repr, Inhabited

inductive MomentKind
  | date
  | time
  | dateAndTime
  deriving DecidableEq, Repr

inductive Value
  | absent
  | null
  | bool (b : Bool)
  | int (i : Int)
  | float (x : Binary64)
  | str (text : String)
  | list (items : List Value)
  | dict (entries : List (Key × Value))
  | moment (kind : MomentKind) (text : String)
  deriving Repr, Inhabited

/-- A table of named values, the shape of definitions and flattened states. -/
abbrev Entries := Table String Value

namespace Value

def ofEntries (entries : Entries) : Value :=
  .dict (entries.map fun (name, v) => (.name name, v))

/-- The named entries of an object; indices are left out. -/
def namedEntries (entries : List (Key × Value)) : Entries :=
  entries.filterMap fun (key, v) =>
    match key with
    | .name name => some (name, v)
    | .index _ => none

/-- What messages call the type of a value. -/
def typeName : Value → String
  | .absent => "_Absent"
  | .null => "NoneType"
  | .bool _ => "bool"
  | .int _ => "int"
  | .float _ => "float"
  | .str _ => "str"
  | .list _ => "list"
  | .dict _ => "dict"
  | .moment .date _ => "date"
  | .moment .time _ => "time"
  | .moment .dateAndTime _ => "datetime"

/-- What counts as true: everything but nothing, `false`, nought and what is empty. -/
def isTruthy : Value → Bool
  | .absent => false
  | .null => false
  | .bool b => b
  | .int i => i != 0
  | .float x => x.isNonzero
  | .str text => text != ""
  | .list items => !items.isEmpty
  | .dict entries => !entries.isEmpty
  | .moment _ _ => true

/-- Whether the value may be a member of a set: lists and objects may not. -/
def isHashable : Value → Bool
  | .list _ => false
  | .dict _ => false
  | _ => true

def ofKey : Key → Value
  | .index n => .int n
  | .name text => .str text

/-- What a loop over the value visits: elements, characters or keys; `none` where there is nothing
to loop over. -/
def elements? : Value → Option (List Value)
  | .str text => some (text.toList.map fun c => .str (String.singleton c))
  | .list items => some items
  | .dict entries => some (entries.map fun (key, _) => ofKey key)
  | _ => none

end Value
end NextWord
