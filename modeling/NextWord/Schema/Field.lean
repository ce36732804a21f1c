import NextWord.Text.Lowercase
import NextWord.Value.Equality
import NextWord.Value.Written

/-!
# Fields of a table

A field describes one expected entry of a table: its name, the types it may have, whether it is
required, the value it has by default, the values it is limited to, and a check of its own. Texts
that spell a boolean are accepted where a boolean is expected.
-/

namespace NextWord

inductive FieldType
  | str
  | int
  | bool
  | float
  | list
  | dict
  deriving DecidableEq, Repr

def trueWords : List String := ["true", "yes", "on", "1", "enabled"]

def falseWords : List String := ["false", "no", "off", "0", "disabled"]

/-- Whether a text spells a boolean, capitals aside. -/
def isBoolWord (text : String) : Bool :=
  let word := String.ofList (Text.lower text.toList)
  trueWords.contains word || falseWords.contains word

namespace FieldType

def text : FieldType → String
  | .str => "str"
  | .int => "int"
  | .bool => "bool"
  | .float => "float"
  | .list => "list"
  | .dict => "dict"

def accepts : FieldType → Value → Bool
  | .str, .str _ => true
  | .int, .int _ => true
  | .bool, .bool _ => true
  | .bool, .str text => isBoolWord text
  | .float, .float _ => true
  | .list, .list _ => true
  | .dict, .dict _ => true
  | _, _ => false

end FieldType

/-- One expected entry of a table. -/
structure SchemaField where
  name : String
  types : List FieldType := [.str]
  required : Bool := false
  default : Value := .null
  choices : Option (List Value) := none
  /-- Messages about a value that has the right type. -/
  check : Value → List String := fun _ => []

namespace SchemaField

def typeName (field : SchemaField) : String :=
  " or ".intercalate (field.types.map FieldType.text)

def hasType (field : SchemaField) (v : Value) : Bool :=
  field.types.any (·.accepts v)

def isChoice (field : SchemaField) (v : Value) : Bool :=
  match field.choices with
  | some choices => v.isIn choices
  | none => true

end SchemaField

abbrev Schema := List SchemaField

namespace Schema

def field? (schema : Schema) (name : String) : Option SchemaField :=
  schema.find? fun field => field.name == name

def names (schema : Schema) : List String :=
  schema.map SchemaField.name

end Schema
end NextWord
