import NextWord.Log.Entry
import NextWord.Schema.Validation
import NextWord.Settings.Configuration
import NextWord.Value.Toml
import NextWord.Vocabulary

/-!
# Settings of completion

The settings table, its defaults, and how it is read from a file. A file or table that is missing
leaves the defaults. An entry that is not valid is reported and dropped, and the default stands in
for it.
-/

namespace NextWord.Settings

def tableName : String := "completion"

/-- Messages about file extensions, which are written without a dot. -/
def extensionMessages : Value → List String
  | .list items => items.filterMap fun item =>
    match item with
    | .str text =>
      if text.toList.head? = some '.' then
        some ("Extension " ++ item.written ++ " must not start with a dot")
      else none
    | _ => none
  | _ => []

def schema : Schema :=
  [{ name := "no_aliases", types := [.bool], default := .bool false },
    { name := "allow_templates", types := [.bool], default := .bool false },
    { name := "skip_visibility", types := [.bool], default := .bool false },
    { name := "escape_spaces", types := [.bool], default := .bool true },
    { name := "file_extensions", types := [.list]
      default := .list (Vocabulary.fileExtensions.map Value.str)
      check := extensionMessages }]

/-- Settings that hold nothing but the defaults. -/
def default : Configuration :=
  .ofSchema [] schema

def unknownKeys (table : Entries) : List LogEntry :=
  (schema.unknownKeys tableName table.keys).map LogEntry.warning

def validate (table : Entries) : List Problem × List LogEntry :=
  (schema.problems tableName table, unknownKeys table)

/-- The problems of one entry; entries that are no settings have none. -/
def entryProblems (entry : String × Value) : List Problem :=
  match schema.field? entry.1 with
  | some field => field.problems tableName [entry]
  | none => []

def isValidEntry (entry : String × Value) : Bool :=
  (schema.field? entry.1).isSome && (entryProblems entry).isEmpty

def ofTable (table : Entries) : Configuration × List LogEntry :=
  (.ofSchema (table.filter isValidEntry) schema,
    unknownKeys table ++ (table.flatMap entryProblems).map Problem.entry)

/-- The settings of a file, of which the name and, if there is such a file, the text are given. -/
def load (file : String) (text : Option String) : Configuration × List LogEntry :=
  match text with
  | none => (default, [.info s!"No settings file at {file}, using defaults"])
  | some text =>
    match Toml.read? text.toList with
    | none => (default, [.error s!"Can't parse {file}"])
    | some document =>
      match document.find? tableName with
      | none => ofTable []
      | some (.dict entries) => ofTable (Value.namedEntries entries)
      | some _ => (default, [.error s!"[{tableName}] in {file} must be a table"])

end NextWord.Settings
