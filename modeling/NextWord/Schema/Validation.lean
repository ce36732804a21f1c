import NextWord.Log.Entry
import NextWord.Schema.Field
import NextWord.Text.Similarity

/-!
# Validation of tables

A table is checked field by field. A field reports the first of these that applies: it is required
and missing, it has the wrong type, it is not among the values it is limited to, its own check has
messages. A missing optional field, and one whose value is nothing, is fine. Entries that no field
describes are not errors; they are worth a warning, which names the field that was probably meant.
-/

namespace NextWord

inductive FieldFault
  | missing (typeName : String)
  | wrongType (expected got : String)
  | invalidChoice (v : Value) (choices : List Value)
  | refused (message : String)
  deriving Repr

/-- A fault of an entry, with the place of the table and the name of the entry. -/
structure Problem where
  scope : String
  field : String
  fault : FieldFault
  deriving Repr

/-- The form of all messages about entries: the place, the entry, what is wrong, and how to mend
it. -/
def schemaMessage (scope field message suggestion : String) : String :=
  s!"[{scope}] Error for '{field}': {message}" ++
    (if suggestion = "" then "" else s!" -> {suggestion}")

namespace Problem

def message (p : Problem) : String :=
  match p.fault with
  | .missing typeName =>
    schemaMessage p.scope p.field "Missing required key" s!"Add '{p.field}' ({typeName})"
  | .wrongType expected got =>
    schemaMessage p.scope p.field s!"Expected {expected}, got {got}" ""
  | .invalidChoice v choices =>
    schemaMessage p.scope p.field ("Invalid value " ++ v.written)
      ("Valid options: " ++ ", ".intercalate (choices.map Value.written))
  | .refused message => schemaMessage p.scope p.field message ""

def entry (p : Problem) : LogEntry :=
  .error p.message

end Problem

namespace SchemaField

def problems (field : SchemaField) (scope : String) (data : Entries) : List Problem :=
  let v := (data.find? field.name).getD .null
  match v with
  | .null => if field.required then [⟨scope, field.name, .missing field.typeName⟩] else []
  | v =>
    if !field.hasType v then [⟨scope, field.name, .wrongType field.typeName v.typeName⟩]
    else if !field.isChoice v then
      [⟨scope, field.name, .invalidChoice v (field.choices.getD [])⟩]
    else (field.check v).map fun message => ⟨scope, field.name, .refused message⟩

end SchemaField

namespace Schema

/-- The problems of a table, field by field. -/
def problems (schema : Schema) (scope : String) (data : Entries) : List Problem :=
  schema.flatMap fun field => field.problems scope data

def unknownKeyMessage (schema : Schema) (scope key : String) : String :=
  match Text.closest? key schema.names with
  | some meant => s!"[{scope}] Unknown key '{key}' (did you mean '{meant}'?)"
  | none => s!"[{scope}] Unknown key '{key}' - will be ignored"

/-- The warnings about entries that no field describes, in the order of the table. -/
def unknownKeys (schema : Schema) (scope : String) (keys : List String) : List String :=
  (keys.filter fun key => !schema.names.contains key).map (schema.unknownKeyMessage scope)

end Schema
end NextWord
