import NextWord.Resource.Basic
import NextWord.Schema.Validation

/-!
# Loading definitions

Definitions of resources are untyped data. What is wrong in them is reported and left out, and the
rest is kept: an attribute that cannot be read does not spoil the others, nor a field the resource.
Only a definition that is no table at all, or a list of query parameters that is none, ends loading.

Warnings about unknown entries come first, then the errors of the fields of a resource, then the
warnings of all its attributes, and at last the errors of its attributes.
-/

namespace NextWord

def attributeSchema : Schema :=
  [{ name := "type", required := true
     check := fun v =>
      match v with
      | .str text =>
        match AttributeType.parse text with
        | .ok _ => []
        | .error fault => [fault.message]
      | _ => [] },
    { name := "usage" },
    { name := "when" },
    { name := "conditions", types := [.list]
      check := fun v =>
        match v with
        | .list items => items.filterMap fun item =>
          match item with
          | .str _ => none
          | item => some ("Condition " ++ item.written ++ " must be a string")
        | _ => [] },
    { name := "autofill" },
    { name := "alias_attribute" }]

def resourceSchema : Schema :=
  [{ name := "singular-name" },
    { name := "json-api-type" },
    { name := "alternate-json-type-for-aliases", types := [.list] },
    { name := "json-api-format" },
    { name := "docs" },
    { name := "no-wrapping", types := [.bool] },
    { name := "legacy", types := [.bool] },
    { name := "suppress-reset-warning", types := [.bool] },
    { name := "created_by", types := [.list] },
    { name := "get-entity", types := [.dict] },
    { name := "get-collection", types := [.dict] },
    { name := "create-entity", types := [.dict] },
    { name := "update-entity", types := [.dict] },
    { name := "delete-entity", types := [.dict] },
    { name := "attributes", types := [.dict], default := .dict [] }]

/-- What is wrong with the definition of an attribute whose fields are valid. -/
inductive AttributeFault
  | pattern (key : String) (fault : PatternFault)
  | type (fault : TypeFault)

namespace AttributeFault

def message : AttributeFault → String
  | .pattern key fault => fault.message key
  | .type fault => fault.message

end AttributeFault

namespace Definition

/-- The text of an entry; nothing counts as the empty text. -/
def textEntry (name : String) (definition : Entries) : String :=
  match definition.find? name with
  | some (.str text) => text
  | _ => ""

/-- The texts among the elements of an entry. -/
def textsEntry (name : String) (definition : Entries) : List String :=
  (((definition.find? name).bind Value.elements?).getD []).filterMap fun item =>
    match item with
    | .str text => some text
    | _ => none

def listEntry (name : String) (definition : Entries) : List Value :=
  match definition.find? name with
  | some (.list items) => items
  | _ => []

/-- A name that a definition may leave out or set to nothing. -/
def nameEntry (name : String) (definition : Entries) : Option String :=
  match definition.find? name with
  | none => some ""
  | some (.str text) => some text
  | some _ => none

/-- The table under an entry; nothing counts as the empty table. -/
def tableEntry (name : String) (definition : Entries) : Entries :=
  match definition.find? name with
  | some (.dict entries) => Value.namedEntries entries
  | _ => []

end Definition

namespace Attribute

open Definition

/-- The fault of a key that is a pattern, if it has one. A pattern that asks for too many rounds is
more than a fault of the definition. -/
def keyFault (key : String) : Except Failure (Option AttributeFault) :=
  if Pattern.isPatternKey key then
    match Pattern.parse key.toList with
    | .ok _ => .ok none
    | .error .tooManyRounds => .error .tooManyRounds
    | .error fault => .ok (some (.pattern key fault))
  else .ok none

def ofParts (key : String) (type : AttributeType) (definition : Entries) : Attribute where
  key := key
  type := type
  when := textEntry "when" definition
  conditions := textsEntry "conditions" definition
  usage := textEntry "usage" definition
  autofill := textEntry "autofill" definition
  aliasAttribute := textEntry "alias_attribute" definition

def ofDefinition (key : String) (definition : Entries) :
    Except Failure (Except AttributeFault Attribute) :=
  match keyFault key with
  | .error failure => .error failure
  | .ok (some fault) => .ok (.error fault)
  | .ok none =>
    match definition.find? "type" with
    | none => .error (.missingEntry "type")
    | some (.str text) =>
      match AttributeType.parse text with
      | .ok type => .ok (.ok (ofParts key type definition))
      | .error fault => .ok (.error (.type fault))
    | some v => .error (.notText v.typeName)

/-- Reads an attribute from its definition, a table or just the text of its type. -/
def read (scope key : String) (definition : Value) : Logged (Except (List Problem) Attribute) :=
  let table? : Option Entries :=
    match definition with
    | .str type => some [("type", .str type)]
    | .dict entries => some (Value.namedEntries entries)
    | _ => none
  match table? with
  | none =>
    .pure (.error
      [⟨scope, key, .refused s!"Expected a definition table, got {definition.typeName}"⟩])
  | some table =>
    let inner := s!"{scope}.{key}"
    let problems := attributeSchema.problems inner table
    let warnings := (attributeSchema.unknownKeys inner table.keys).map LogEntry.warning
    match problems with
    | [] =>
      match ofDefinition key table with
      | .error failure => ⟨warnings, .error failure⟩
      | .ok (.ok a) => ⟨warnings, .ok (.ok a)⟩
      | .ok (.error fault) =>
        ⟨warnings, .ok (.error [⟨scope, key, .refused fault.message⟩])⟩
    | problems => ⟨warnings, .ok (.error problems)⟩

end Attribute

/-- Something read, and the problems of what was left out. -/
structure Reading (α : Type) where
  value : α
  problems : List Problem

namespace Attribute

/-- Sorts what was read of each attribute into attributes and problems. -/
def collect (read : List (String × Except (List Problem) Attribute)) :
    Reading (Table String Attribute) where
  value := Table.ofPairs (read.filterMap fun (key, outcome) =>
    match outcome with
    | .ok a => some (key, a)
    | .error _ => none)
  problems := read.flatMap fun (_, outcome) =>
    match outcome with
    | .ok _ => []
    | .error problems => problems

def readAll (scope : String) (definitions : Entries) :
    Logged (Reading (Table String Attribute)) := do
  let read ← Logged.each
    (fun (entry : String × Value) => do
      let outcome ← Attribute.read scope entry.1 entry.2
      pure (entry.1, outcome))
    definitions
  let reading := collect read
  Logged.write (reading.problems.map Problem.entry)
  pure reading

end Attribute

namespace Operation

def queryNames (items : List Value) : List Value :=
  items.filterMap fun item =>
    match item with
    | .dict entries =>
      match Table.find? (.name "name") entries with
      | some name => if name.isTruthy then some name else none
      | none => none
    | _ => none

/-- The operation that an entry of a resource defines, if there is one. -/
def read (name : String) (definition : Entries) : Except Failure (Option Operation) :=
  match definition.find? name with
  | some (.dict entries) =>
    let url := (Table.find? (.name "url") entries).getD (.str "")
    let query := (Table.find? (.name "query") entries).getD .null
    if query.isTruthy then
      match query.elements? with
      | some items => .ok (some ⟨url, queryNames items⟩)
      | none => .error (.notIterable query.typeName)
    else .ok (some ⟨url, []⟩)
  | _ => .ok none

end Operation

namespace Resource

open Definition

/-- The fields of a definition that are valid, and the problems of the others. -/
def validFields (name : String) (definition : Entries) : Reading Entries where
  value := resourceSchema.filterMap fun field =>
    match definition.find? field.name with
    | some v =>
      if (field.problems name [(field.name, v)]).isEmpty then some (field.name, v) else none
    | none => none
  problems := resourceSchema.flatMap fun field =>
    match definition.find? field.name with
    | some v => field.problems name [(field.name, v)]
    | none => []

def assemble (name : String) (fields : Entries) (attributes : Table String Attribute) :
    Except Failure Resource := do
  let getEntity ← Operation.read "get-entity" fields
  let getCollection ← Operation.read "get-collection" fields
  let createEntity ← Operation.read "create-entity" fields
  let updateEntity ← Operation.read "update-entity" fields
  let deleteEntity ← Operation.read "delete-entity" fields
  pure
    { name, attributes, getEntity, getCollection, createEntity, updateEntity, deleteEntity
      singularName := nameEntry "singular-name" fields
      jsonApiType := nameEntry "json-api-type" fields
      alternateTypes := listEntry "alternate-json-type-for-aliases" fields }

def readTable (name : String) (definition : Entries) : Logged (Reading Resource) := do
  Logged.write ((resourceSchema.unknownKeys name definition.keys).map LogEntry.warning)
  let fields := validFields name definition
  Logged.write (fields.problems.map Problem.entry)
  let attributes ← Attribute.readAll name (tableEntry "attributes" fields.value)
  let resource ← Logged.ofExcept (assemble name fields.value attributes.value)
  pure ⟨resource, fields.problems ++ attributes.problems⟩

/-- The name that an element of a definition which is no table stands for. -/
def elementName : Value → Except Failure String
  | .str text => .ok text
  | .list items => .ok (Value.list items).written
  | .dict entries => .ok (Value.dict entries).written
  | v => .error (.notIterable v.typeName)

/-- Whether a definition which is no table seems to have a field. -/
def mentions (definition : Value) (field : SchemaField) : Bool :=
  match definition with
  | .str text => Text.occursIn field.name.toList text.toList
  | .list items => (Value.str field.name).isIn items
  | _ => false

/-- Reads a resource from something that is no table. A text or a list without the name of any field
makes a resource without fields; everything else cannot be read. -/
def readOther (name : String) (definition : Value) : Logged (Reading Resource) := do
  match definition.elements? with
  | none => Logged.fail (.notIterable definition.typeName)
  | some elements =>
    let _ ← Logged.each
      (fun element => do
        let key ← Logged.ofExcept (elementName element)
        Logged.write ((resourceSchema.unknownKeys name [key]).map LogEntry.warning))
      elements
    if resourceSchema.any (mentions definition) then
      Logged.fail (.notATable definition.typeName)
    else pure ⟨{ name }, []⟩

def read (name : String) (definition : Value) : Logged (Reading Resource) :=
  match definition with
  | .dict entries => readTable name (Value.namedEntries entries)
  | other => readOther name other

end Resource
end NextWord
