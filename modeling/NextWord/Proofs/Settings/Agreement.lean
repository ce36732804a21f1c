import NextWord.Proofs.Schema.EntryByEntry
import NextWord.Settings.Basic

/-!
# Valid settings

Settings are read entry by entry, and a settings table is checked as a whole, field by field. Both
come to the same: the entries that are kept are those in which the check of the table finds nothing
wrong, and what is reported about the others is what the check finds, in the order of the table. The
defaults pass their own checks. So no setting ever has a value that its field does not accept.
-/

namespace NextWord.Settings

theorem nodup_names : schema.names.Nodup := by
  decide

theorem optional_of_mem : ∀ field ∈ schema, field.required = false := by
  decide

theorem default_ne_null : ∀ field ∈ schema, field.default ≠ .null := by
  simp [schema]

/-- Every default passes the checks of its own field. -/
theorem accepts_default : ∀ field ∈ schema, field.Accepts field.default := by
  have hdefaults : ∀ field ∈ schema, field.hasType field.default = true ∧
      field.isChoice field.default = true ∧ field.check field.default = [] := by
    decide
  intro field hfield
  obtain ⟨htype, hchoice, hcheck⟩ := hdefaults field hfield
  exact ⟨htype, hchoice, hcheck⟩

variable {table : Entries} {entry : String × Value}

theorem entryProblems_eq (entry : String × Value) :
    entryProblems entry = schema.problems tableName [entry] :=
  (Schema.problems_entry optional_of_mem nodup_names).symm

theorem isValidEntry_iff (hkeys : table.keys.Nodup) (hentry : entry ∈ table) :
    isValidEntry entry = true ↔
      entry.1 ∈ schema.names ∧ ∀ p ∈ (validate table).1, p.field ≠ entry.1 := by
  have hname : (schema.field? entry.1).isSome = true ↔ entry.1 ∈ schema.names := by
    simp [Schema.field?, Schema.names, List.find?_isSome]
  rw [isValidEntry, Bool.and_eq_true, hname, List.isEmpty_iff, entryProblems_eq,
    Schema.problems_entry_eq_nil_iff optional_of_mem hkeys hentry]
  rfl

theorem mem_values_ofTable_iff (hkeys : table.keys.Nodup) :
    entry ∈ (ofTable table).1.values ↔
      entry ∈ table ∧ entry.1 ∈ schema.names ∧ ∀ p ∈ (validate table).1, p.field ≠ entry.1 := by
  refine List.mem_filter.trans (and_congr_right fun hentry => ?_)
  exact isValidEntry_iff hkeys hentry

theorem errors_unknownKeys (table : Entries) :
    (unknownKeys table).filter (fun line => line.severity = .error) = [] := by
  refine List.filter_eq_nil_iff.mpr fun line hline => ?_
  obtain ⟨message, -, rfl⟩ := List.mem_map.mp hline
  simp [LogEntry.warning]

theorem errors_entries (problems : List Problem) :
    (problems.map Problem.entry).filter (fun line => line.severity = .error) =
      problems.map Problem.entry := by
  refine List.filter_eq_self.mpr fun line hline => ?_
  obtain ⟨p, -, rfl⟩ := List.mem_map.mp hline
  simp [Problem.entry, LogEntry.error]

/-- The errors that are reported are those that the check of the table finds. -/
theorem errors_ofTable_perm (hkeys : table.keys.Nodup) :
    ((ofTable table).2.filter fun line => line.severity = .error).Perm
      ((validate table).1.map Problem.entry) := by
  have hentries : table.flatMap entryProblems =
      table.flatMap fun entry => schema.problems tableName [entry] :=
    List.flatMap_congr fun entry _ => entryProblems_eq entry
  rw [ofTable, List.filter_append, errors_unknownKeys, errors_entries, List.nil_append, hentries]
  exact (Schema.problems_perm_flatMap optional_of_mem hkeys).symm.map Problem.entry

theorem accepts_of_mem_values {field : SchemaField} (hfield : field ∈ schema) {v : Value}
    (hv : v ≠ .null) (h : (field.name, v) ∈ (ofTable table).1.values) : field.Accepts v := by
  have hvalid := (List.mem_filter.mp h).2
  rw [isValidEntry, Bool.and_eq_true, List.isEmpty_iff, entryProblems_eq] at hvalid
  exact SchemaField.accepts_of_problems hv (List.flatMap_eq_nil_iff.mp hvalid.2 field hfield)

/-- A setting is the entry that was kept of it, or else its default. -/
theorem get_ofTable (table : Entries) {field : SchemaField} (hfield : field ∈ schema)
    (fallback : Value) :
    (field.name, (ofTable table).1.get field.name fallback) ∈ (ofTable table).1.values ∨
      field.name ∉ (ofTable table).1.values.keys ∧
        (ofTable table).1.get field.name fallback = field.default := by
  rw [Configuration.get, Configuration.get?]
  cases hfind : (ofTable table).1.values.find? field.name with
  | some v => exact .inl (Table.mem_of_find?_eq_some hfind)
  | none =>
    have hdefault :=
      Configuration.find?_defaultsOf nodup_names hfield (default_ne_null field hfield)
    refine .inr ⟨?_, ?_⟩
    · rw [← Table.find?_isSome_iff, hfind]
      exact Bool.false_ne_true
    · rw [Option.orElse_none, ofTable, Configuration.ofSchema, hdefault, Option.getD_some]

theorem load_eq_ofTable {file text : String} {document : Entries} {entries : List (Key × Value)}
    (hread : Toml.read? text.toList = some document)
    (htable : document.find? tableName = some (.dict entries)) :
    load file (some text) = ofTable (Value.namedEntries entries) := by
  simp only [load, hread, htable]

/-- The settings and the log of a table, compared with what the check of the table finds. -/
structure AgreesWithCheck (table : Entries) (settings : Configuration) (log : List LogEntry) :
    Prop where
  /-- The entries that are kept are the settings in which nothing is wrong. -/
  kept : ∀ entry, entry ∈ settings.values ↔
    entry ∈ table ∧ entry.1 ∈ schema.names ∧ ∀ p ∈ (validate table).1, p.field ≠ entry.1
  /-- The errors that are reported are those of the check, in any order. -/
  errors : (log.filter fun line => line.severity = .error).Perm
    ((validate table).1.map Problem.entry)
  /-- A setting is the entry that was kept of it, or else its default, and its field accepts it. -/
  answers : ∀ field ∈ schema, ∀ fallback,
    field.Accepts (settings.get field.name fallback) ∧
      ((field.name, settings.get field.name fallback) ∈ settings.values ∨
        field.name ∉ settings.values.keys ∧ settings.get field.name fallback = field.default)

/-- The settings of a table, read entry by entry, agree with the check of the table as a whole. They
are the settings of every file in which the table stands. -/
theorem agreesWithCheck_ofTable (table : Entries) (hkeys : table.keys.Nodup)
    (hnull : ∀ entry ∈ table, entry.2 ≠ .null) :
    AgreesWithCheck table (ofTable table).1 (ofTable table).2 ∧
      ∀ (file text : String) (document : Entries) (entries : List (Key × Value)),
        Toml.read? text.toList = some document →
        document.find? tableName = some (.dict entries) →
        Value.namedEntries entries = table →
        load file (some text) = ofTable table := by
  refine ⟨⟨fun entry => mem_values_ofTable_iff hkeys, errors_ofTable_perm hkeys, ?_⟩, ?_⟩
  · -- A kept entry has no problems of its own, and a default passes its own checks.
    intro field hfield fallback
    have hget := get_ofTable table hfield fallback
    refine ⟨?_, hget⟩
    rcases hget with hkept | ⟨-, hdefault⟩
    · exact accepts_of_mem_values hfield (hnull _ (List.mem_filter.mp hkept).1) hkept
    · rw [hdefault]
      exact accepts_default field hfield
  · rintro file text document entries hread htable rfl
    exact load_eq_ofTable hread htable

/-- A table with a value of the wrong type, one of a wrong form, a misspelt name and a valid
entry. -/
def mixedTable : Entries :=
  [("no_aliases", .str "maybe"), ("no_alias", .bool true),
    ("file_extensions", .list [.str ".png"]), ("allow_templates", .str "ON")]

theorem agreesWithCheck_ofTable_mixed :
    AgreesWithCheck mixedTable (ofTable mixedTable).1 (ofTable mixedTable).2 ∧
      (ofTable mixedTable).1.values.keys = ["allow_templates"] ∧
      (ofTable mixedTable).2.length = 3 :=
  ⟨(agreesWithCheck_ofTable mixedTable (by decide) (by simp [mixedTable])).1,
    by decide +kernel, by decide +kernel⟩

end NextWord.Settings
