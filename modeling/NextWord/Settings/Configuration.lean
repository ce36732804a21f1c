import NextWord.Log.Logged
import NextWord.Schema.Field
import NextWord.Text.Blank

/-!
# Configurations

Named values over the defaults that a schema declares. A value that is set, even to nothing, hides
the default. Booleans may be written in words; a lone value counts as a list of one.
-/

namespace NextWord

/-- Values that are set, and defaults for the others. -/
structure Configuration where
  values : Entries := []
  defaults : Entries := []

/-- What a value means as a boolean, nothing if there is no value: a blank text and the words for
false are false, every other text is true, and other values count as they usually do. -/
def looseBool? : Value → Option Bool
  | .null => none
  | .str text =>
    let word := String.ofList (Text.strip (Text.lower text.toList))
    some (!Text.isBlankText text.toList && !falseWords.contains word)
  | v => some v.isTruthy

namespace Configuration

def defaultsOf (schema : Schema) : Entries :=
  Table.ofPairs (schema.filterMap fun field =>
    match field.default with
    | .null => none
    | v => some (field.name, v))

def ofSchema (values : Entries) (schema : Schema) : Configuration where
  values := values
  defaults := defaultsOf schema

def get? (c : Configuration) (name : String) : Option Value :=
  (c.values.find? name).orElse fun _ => c.defaults.find? name

/-- The value of a name, with a fallback where there is none. -/
def get (c : Configuration) (name : String) (fallback : Value) : Value :=
  (c.get? name).getD fallback

def set (c : Configuration) (name : String) (v : Value) : Configuration :=
  { c with values := c.values.put name v }

def has (c : Configuration) (name : String) : Bool :=
  c.values.has name

def bool? (c : Configuration) (name : String) : Option Bool :=
  looseBool? (c.get name .null)

/-- The value of a name as a boolean, `false` where it has none. -/
def bool (c : Configuration) (name : String) : Bool :=
  (c.bool? name).getD false

/-- The value of a name as a boolean, with a fallback of any kind where it has none. -/
def boolOr (c : Configuration) (name : String) (fallback : Value) : Value :=
  match c.bool? name with
  | some b => .bool b
  | none => fallback

def list? (c : Configuration) (name : String) : Option (List Value) :=
  match c.get name .null with
  | .null => none
  | .list items => some items
  | v => some [v]

def list (c : Configuration) (name : String) : List Value :=
  (c.list? name).getD []

/-- The value of a name as a list, with the elements of a fallback where it has none. -/
def listOr (c : Configuration) (name : String) (fallback : Value) : Except Failure (List Value) :=
  match c.list? name with
  | some items => .ok items
  | none =>
    if fallback.isTruthy then
      match fallback.elements? with
      | some items => .ok items
      | none => .error (.notIterable fallback.typeName)
    else .ok []

end Configuration
end NextWord
