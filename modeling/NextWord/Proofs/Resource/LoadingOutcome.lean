import Mathlib.Data.List.Basic
import NextWord.Proofs.Resource.WellKeyed

/-!
# What loading survives

A definition that is a table is read whatever is wrong with it, with two exceptions: an operation
whose list of query parameters is neither nothing nor something with elements, and an attribute,
itself in order, whose key is a pattern that asks for more rounds than can be counted. All other
faults end up among the problems of the reading. A registry is loaded if all its definitions can be
read, and then has a resource under every name.
-/

namespace NextWord

namespace Attribute

/-- The fields of an attribute's definition, which may be just the text of its type. -/
def fields? : Value → Option Entries
  | .str type => some [("type", .str type)]
  | .dict entries => some (Value.namedEntries entries)
  | _ => none

def InOrder (scope key : String) (definition : Value) : Prop :=
  ∃ fields, fields? definition = some fields ∧
    attributeSchema.problems s!"{scope}.{key}" fields = []

/-- Whether a key is a pattern that asks for more rounds than can be counted. -/
def Uncountable (key : String) : Prop :=
  Pattern.isPatternKey key = true ∧ Pattern.parse key.toList = .error .tooManyRounds

theorem keyFault_eq_error_iff {key : String} {failure : Failure} :
    keyFault key = .error failure ↔ Uncountable key ∧ failure = .tooManyRounds := by
  rw [keyFault, Uncountable]
  by_cases hkey : Pattern.isPatternKey key = true
  · rw [if_pos hkey]
    split
    · next hparse => simp [hparse]
    · next hparse => simp [hparse, hkey, eq_comm]
    · next fault hfault hparse =>
      have hother : fault ≠ .tooManyRounds := fun h => hfault h
      simp [hparse, hother]
  · rw [if_neg hkey]
    simp [hkey]

/-- A definition in order has the text of a type. -/
theorem exists_type_of_problems {scope : String} {fields : Entries}
    (h : attributeSchema.problems scope fields = []) :
    ∃ text, fields.find? "type" = some (.str text) := by
  have hfield := List.flatMap_eq_nil_iff.mp h _ List.mem_cons_self
  simp only [SchemaField.problems] at hfield
  cases hfind : fields.find? "type" with
  | none => simp [hfind] at hfield
  | some v =>
    cases v <;> simp [hfind, SchemaField.hasType, FieldType.accepts] at hfield
    exact ⟨_, rfl⟩

theorem ofDefinition_eq_error_iff {key type : String} {fields : Entries} {failure : Failure}
    (h : fields.find? "type" = some (.str type)) :
    ofDefinition key fields = .error failure ↔ Uncountable key ∧ failure = .tooManyRounds := by
  rw [← keyFault_eq_error_iff, ofDefinition]
  split
  · next hfault => rw [hfault, Except.error.injEq, Except.error.injEq]
  · next hfault => simp [hfault]
  · next hfault =>
    simp only [h, hfault]
    split <;> simp

/-- Fields that are in order are read further; all others are problems. -/
theorem read_of_fields? {scope key : String} {definition : Value} {fields : Entries}
    {failure : Failure} (h : fields? definition = some fields) :
    (read scope key definition).result = .error failure ↔
      attributeSchema.problems s!"{scope}.{key}" fields = [] ∧
        ofDefinition key fields = .error failure := by
  cases definition <;> cases h <;> rw [read]
  all_goals
    generalize attributeSchema.problems _ _ = problems
    cases problems with
    | cons problem more => simp
    | nil =>
      generalize ofDefinition key _ = outcome
      rcases outcome with other | fault | a <;> simp

/-- An attribute is read unless it is in order but for the rounds of its key. -/
theorem read_eq_error_iff {scope key : String} {definition : Value} {failure : Failure} :
    (read scope key definition).result = .error failure ↔
      (InOrder scope key definition ∧ Uncountable key) ∧ failure = .tooManyRounds := by
  cases hfields : fields? definition with
  | none =>
    have hproblem : ∃ problems, (read scope key definition).result = .ok (.error problems) := by
      cases definition with
      | str _ => cases hfields
      | dict _ => cases hfields
      | _ => exact ⟨_, rfl⟩
    obtain ⟨problems, hproblem⟩ := hproblem
    simp [hproblem, InOrder, hfields]
  | some fields =>
    rw [read_of_fields? hfields]
    constructor
    · rintro ⟨hproblems, hdefinition⟩
      obtain ⟨type, htype⟩ := exists_type_of_problems hproblems
      obtain ⟨hkey, hfailure⟩ := (ofDefinition_eq_error_iff htype).mp hdefinition
      exact ⟨⟨⟨fields, hfields, hproblems⟩, hkey⟩, hfailure⟩
    · rintro ⟨⟨⟨same, hsame, hproblems⟩, hkey⟩, hfailure⟩
      obtain rfl := Option.some.inj (hfields.symm.trans hsame)
      obtain ⟨type, htype⟩ := exists_type_of_problems hproblems
      exact ⟨hproblems, (ofDefinition_eq_error_iff htype).mpr ⟨hkey, hfailure⟩⟩

/-- Attributes that are all read are in order only where the rounds of their keys can be counted. -/
theorem not_uncountable_of_readAll {scope : String} {definitions : Entries}
    {reading : Reading (Table String Attribute)}
    (h : (readAll scope definitions).result = .ok reading) {entry : String × Value}
    (hentry : entry ∈ definitions) (horder : InOrder scope entry.1 entry.2) :
    ¬ Uncountable entry.1 := by
  intro hkey
  obtain ⟨read, hread, -⟩ := Logged.exists_of_bind h
  obtain ⟨_, houtcome⟩ := Logged.exists_each_iff.mp ⟨read, hread⟩ entry hentry
  obtain ⟨outcome, houtcome, -⟩ := Logged.exists_of_bind houtcome
  have hfailed := read_eq_error_iff.mpr ⟨⟨horder, hkey⟩, rfl⟩
  cases houtcome.symm.trans hfailed

theorem exists_of_readAll_eq_error {scope : String} {definitions : Entries} {failure : Failure}
    (h : (readAll scope definitions).result = .error failure) :
    ∃ entry ∈ definitions,
      (InOrder scope entry.1 entry.2 ∧ Uncountable entry.1) ∧ failure = .tooManyRounds := by
  rcases Logged.result_bind_eq_error_iff.mp h with hfailed | ⟨read, -, h⟩
  · obtain ⟨entry, hentry, hfailed⟩ := Logged.exists_of_each_eq_error hfailed
    rcases Logged.result_bind_eq_error_iff.mp hfailed with hfailed | ⟨outcome, -, h⟩
    · exact ⟨entry, hentry, read_eq_error_iff.mp hfailed⟩
    · cases h
  · cases h

end Attribute

namespace Operation

/-- The entries of a resource that define operations. -/
def names : List String :=
  ["get-entity", "get-collection", "create-entity", "update-entity", "delete-entity"]

/-- Query parameters that say something and yet have no elements. -/
def Unlistable (query : Value) : Prop :=
  query.isTruthy = true ∧ query.elements? = none

/-- An operation is read unless its query parameters cannot be listed. -/
theorem read_eq_error_iff {name : String} {definition : Entries} {failure : Failure} :
    read name definition = .error failure ↔
      ∃ entries query, definition.find? name = some (.dict entries) ∧
        Table.find? (.name "query") entries = some query ∧ Unlistable query ∧
        failure = .notIterable query.typeName := by
  constructor
  · intro h
    rw [read] at h
    split at h
    · next entries hentry =>
      cases hquery : Table.find? (.name "query") entries with
      | none =>
        rw [hquery] at h
        cases h
      | some query =>
        rw [hquery, Option.getD_some] at h
        simp only at h
        split at h
        · next htruthy =>
          cases helements : query.elements? with
          | some items => simp [helements] at h
          | none =>
            rw [helements] at h
            exact ⟨entries, query, hentry, hquery, ⟨htruthy, helements⟩, (Except.error.inj h).symm⟩
        · cases h
    · cases h
  · rintro ⟨entries, query, hentry, hquery, ⟨htruthy, helements⟩, rfl⟩
    simp [read, hentry, hquery, htruthy, helements]

end Operation

namespace Resource

variable {scope name : String} {definition : Entries}

theorem nodup_names_resourceSchema : resourceSchema.names.Nodup := by
  decide

theorem fst_of_validField {field : SchemaField} {entry : String × Value}
    (h : (match definition.find? field.name with
      | some v =>
        if (field.problems scope [(field.name, v)]).isEmpty then some (field.name, v) else none
      | none => none) = some entry) : entry.1 = field.name := by
  split at h
  · split at h <;> cases h
    rfl
  · cases h

theorem nodup_keys_validFields : (validFields scope definition).value.keys.Nodup := by
  rw [Table.keys, List.Nodup, List.pairwise_map, validFields, List.pairwise_filterMap]
  refine (List.pairwise_map.mp nodup_names_resourceSchema).imp ?_
  rintro first second hne entry hentry other hother
  rwa [fst_of_validField hentry, fst_of_validField hother]

/-- An entry is among the valid fields if it is valid as a field of its name. -/
theorem find?_validFields_eq_some_iff {v : Value} :
    (validFields scope definition).value.find? name = some v ↔
      definition.find? name = some v ∧
        ∃ field ∈ resourceSchema, field.name = name ∧ field.problems scope [(name, v)] = [] := by
  constructor
  · intro h
    obtain ⟨field, hfield, hmade⟩ := List.mem_filterMap.mp (Table.mem_of_find?_eq_some h)
    split at hmade
    · next found hfound =>
      split at hmade
      · next hvalid =>
        cases hmade
        exact ⟨hfound, field, hfield, rfl, List.isEmpty_iff.mp hvalid⟩
      · cases hmade
    · cases hmade
  · rintro ⟨hfind, field, hfield, rfl, hvalid⟩
    refine Table.find?_of_mem nodup_keys_validFields ?_
    exact List.mem_filterMap.mpr ⟨field, hfield, by simp [hfind, hvalid]⟩

/-- Where tables are expected all tables are valid. -/
theorem exists_tableField (scope : String) (hname : name ∈ "attributes" :: Operation.names) :
    ∃ field ∈ resourceSchema, field.name = name ∧
      ∀ entries, field.problems scope [(name, .dict entries)] = [] := by
  have hfield : ∃ field, resourceSchema.field? name = some field ∧ field.name = name ∧
      ∀ entries, field.problems scope [(name, .dict entries)] = [] := by
    simp only [Operation.names, List.mem_cons, List.not_mem_nil, or_false] at hname
    rcases hname with rfl | rfl | rfl | rfl | rfl | rfl <;> exact ⟨_, rfl, rfl, fun _ => rfl⟩
  obtain ⟨field, hfield, hproblems⟩ := hfield
  exact ⟨field, List.mem_of_find?_eq_some hfield, hproblems⟩

/-- Tables are valid where tables are expected. -/
theorem find?_validFields_eq_some_dict_iff (scope : String)
    (hname : name ∈ "attributes" :: Operation.names) {entries : List (Key × Value)} :
    (validFields scope definition).value.find? name = some (.dict entries) ↔
      definition.find? name = some (.dict entries) := by
  obtain ⟨field, hfield, hown, hvalid⟩ := exists_tableField scope hname
  rw [find?_validFields_eq_some_iff]
  exact ⟨And.left, fun h => ⟨h, field, hfield, hown, hvalid entries⟩⟩

theorem mem_tableEntry_iff {field : String} {definition : Entries} {entry : String × Value} :
    entry ∈ Definition.tableEntry field definition ↔
      ∃ entries, definition.find? field = some (.dict entries) ∧
        entry ∈ Value.namedEntries entries := by
  rw [Definition.tableEntry]
  split
  · next entries hfind => simp [hfind]
  · next hother =>
    simp only [List.not_mem_nil, false_iff]
    rintro ⟨entries, hfind, -⟩
    exact hother entries hfind

/-- What ends the reading of a resource: an operation whose query parameters cannot be listed, or
an attribute, itself in order, with a pattern for a key whose rounds cannot be counted. -/
inductive Hindrance (name : String) (definition : Entries) : Failure → Prop
  | query {operation : String} {entries : List (Key × Value)} {query : Value}
      (hoperation : operation ∈ Operation.names)
      (hentry : definition.find? operation = some (.dict entries))
      (hquery : Table.find? (.name "query") entries = some query)
      (hunlistable : Operation.Unlistable query) :
      Hindrance name definition (.notIterable query.typeName)
  | rounds {entries : List (Key × Value)} {declared : String × Value}
      (hentry : definition.find? "attributes" = some (.dict entries))
      (hdeclared : declared ∈ Value.namedEntries entries)
      (horder : Attribute.InOrder name declared.1 declared.2)
      (huncountable : Attribute.Uncountable declared.1) :
      Hindrance name definition .tooManyRounds

section Assembling

variable {fields : Entries} {attributes : Table String Attribute} {r : Resource}

theorem operations_of_assemble (h : assemble name fields attributes = .ok r) :
    ∀ operation ∈ Operation.names, ∃ read, Operation.read operation fields = .ok read := by
  obtain ⟨getEntity, hgetEntity, h⟩ := exists_of_except_bind h
  obtain ⟨getCollection, hgetCollection, h⟩ := exists_of_except_bind h
  obtain ⟨createEntity, hcreateEntity, h⟩ := exists_of_except_bind h
  obtain ⟨updateEntity, hupdateEntity, h⟩ := exists_of_except_bind h
  obtain ⟨deleteEntity, hdeleteEntity, -⟩ := exists_of_except_bind h
  simp [Operation.names, *]

theorem exists_of_assemble_eq_error {failure : Failure}
    (h : assemble name fields attributes = .error failure) :
    ∃ operation ∈ Operation.names, Operation.read operation fields = .error failure := by
  rcases of_except_bind_eq_error h with h | ⟨getEntity, -, h⟩
  · exact ⟨_, by simp [Operation.names], h⟩
  rcases of_except_bind_eq_error h with h | ⟨getCollection, -, h⟩
  · exact ⟨_, by simp [Operation.names], h⟩
  rcases of_except_bind_eq_error h with h | ⟨createEntity, -, h⟩
  · exact ⟨_, by simp [Operation.names], h⟩
  rcases of_except_bind_eq_error h with h | ⟨updateEntity, -, h⟩
  · exact ⟨_, by simp [Operation.names], h⟩
  rcases of_except_bind_eq_error h with h | ⟨deleteEntity, -, h⟩
  · exact ⟨_, by simp [Operation.names], h⟩
  cases h

end Assembling

theorem mem_tableEntry_attributes_iff (scope : String) {entry : String × Value} :
    entry ∈ Definition.tableEntry "attributes" (validFields scope definition).value ↔
      ∃ entries, definition.find? "attributes" = some (.dict entries) ∧
        entry ∈ Value.namedEntries entries := by
  simp only [mem_tableEntry_iff, find?_validFields_eq_some_dict_iff scope List.mem_cons_self]

/-- A resource that was read has met nothing that hinders. -/
theorem not_hindrance_of_read {entries : List (Key × Value)} {reading : Reading Resource}
    (h : (read name (.dict entries)).result = .ok reading) (failure : Failure) :
    ¬ Hindrance name (Value.namedEntries entries) failure := by
  obtain ⟨attributes, hattributes, hassemble⟩ := exists_of_readTable h
  rintro (⟨hoperation, hentry, hquery, hunlistable⟩ | ⟨hentry, hdeclared, horder, huncountable⟩)
  · have hname := List.mem_cons_of_mem "attributes" hoperation
    have hfield := (find?_validFields_eq_some_dict_iff name hname).mpr hentry
    have hfailed := Operation.read_eq_error_iff.mpr ⟨_, _, hfield, hquery, hunlistable, rfl⟩
    obtain ⟨read, hread⟩ := operations_of_assemble hassemble _ hoperation
    cases hread.symm.trans hfailed
  · have hmem := (mem_tableEntry_attributes_iff name).mpr ⟨_, hentry, hdeclared⟩
    exact Attribute.not_uncountable_of_readAll hattributes hmem horder huncountable

/-- Whatever ends the reading of a resource hinders it. -/
theorem hindrance_of_read_eq_error {entries : List (Key × Value)} {failure : Failure}
    (h : (read name (.dict entries)).result = .error failure) :
    Hindrance name (Value.namedEntries entries) failure := by
  -- what was written before the attributes are read cannot fail
  rcases Logged.result_bind_eq_error_iff.mp h with h | ⟨-, -, h⟩
  · cases h
  rcases Logged.result_bind_eq_error_iff.mp h with h | ⟨-, -, h⟩
  · cases h
  rcases Logged.result_bind_eq_error_iff.mp h with hattributes | ⟨attributes, -, h⟩
  · obtain ⟨declared, hdeclared, ⟨horder, huncountable⟩, rfl⟩ :=
      Attribute.exists_of_readAll_eq_error hattributes
    obtain ⟨table, hentry, hmem⟩ := (mem_tableEntry_attributes_iff name).mp hdeclared
    exact .rounds hentry hmem horder huncountable
  rcases Logged.result_bind_eq_error_iff.mp h with hassemble | ⟨r, -, h⟩
  · rw [Logged.result_ofExcept] at hassemble
    obtain ⟨operation, hoperation, hread⟩ := exists_of_assemble_eq_error hassemble
    obtain ⟨table, query, hfield, hquery, hunlistable, rfl⟩ := Operation.read_eq_error_iff.mp hread
    have hname := List.mem_cons_of_mem "attributes" hoperation
    have hentry := (find?_validFields_eq_some_dict_iff name hname).mp hfield
    exact .query hoperation hentry hquery hunlistable
  · cases h

/-- A table is read exactly if nothing in it hinders. -/
theorem exists_read_iff {entries : List (Key × Value)} :
    (∃ reading, (read name (.dict entries)).result = .ok reading) ↔
      ∀ failure, ¬ Hindrance name (Value.namedEntries entries) failure := by
  constructor
  · rintro ⟨reading, h⟩
    exact not_hindrance_of_read h
  · intro hnone
    cases h : (read name (.dict entries)).result with
    | ok reading => exact ⟨reading, rfl⟩
    | error failure => exact absurd (hindrance_of_read_eq_error h) (hnone failure)

/-- A resource that was read has the name under which it was defined. -/
theorem name_of_read {definition : Value} {reading : Reading Resource}
    (h : (read name definition).result = .ok reading) : reading.value.name = name := by
  cases definition with
  | dict entries =>
    obtain ⟨_, -, hassemble⟩ := exists_of_readTable h
    exact (name_attributes_of_assemble hassemble).1
  | _ => rw [value_of_readOther h]

end Resource

namespace Registry

def Keeps (registry : Registry) (name : String) : Prop :=
  ∃ r, registry.resources.find? name = some r ∧ r.name = name

theorem keeps_add (registry : Registry) (r : Resource) : (registry.add r).Keeps r.name :=
  ⟨r, Table.find?_put_self _ _ _, rfl⟩

theorem Keeps.add {registry : Registry} {name : String} (h : registry.Keeps name) (r : Resource) :
    (registry.add r).Keeps name := by
  by_cases hname : name = r.name
  · exact hname ▸ keeps_add registry r
  · obtain ⟨found, hfound, hown⟩ := h
    exact ⟨found, (Table.find?_put_of_ne hname _ _).trans hfound, hown⟩

theorem Keeps.exists_get? {registry : Registry} {name : String} (h : registry.Keeps name) :
    ∃ r, registry.get? name = some r ∧ r.name = name := by
  obtain ⟨r, hr, hname⟩ := h
  exact ⟨r, by rw [get?, hr, Option.orElse_some], hname⟩

/-- Definitions are loaded exactly if each can be read. -/
theorem exists_loadInto_iff {definitions : Entries} {start : Reading Registry} :
    (∃ reading, (loadInto start definitions).result = .ok reading) ↔
      ∀ definition ∈ definitions,
        ∃ reading, (Resource.read definition.1 definition.2).result = .ok reading := by
  induction definitions generalizing start with
  | nil => exact iff_of_true ⟨start, rfl⟩ (by simp)
  | cons definition definitions ih =>
    rw [List.forall_mem_cons]
    constructor
    · rintro ⟨reading, h⟩
      obtain ⟨next, hnext, h⟩ := Logged.exists_of_bind h
      exact ⟨⟨next, hnext⟩, ih.mp ⟨reading, h⟩⟩
    · rintro ⟨⟨next, hnext⟩, hrest⟩
      obtain ⟨reading, h⟩ := ih.mpr hrest
      exact ⟨reading, Logged.result_bind_eq_ok_iff.mpr ⟨next, hnext, h⟩⟩

/-- Loading keeps what is there and adds a resource under every name. -/
theorem keeps_of_loadInto {definitions : Entries} {start reading : Reading Registry}
    (h : (loadInto start definitions).result = .ok reading) {name : String}
    (hname : start.value.Keeps name ∨ name ∈ definitions.keys) : reading.value.Keeps name := by
  induction definitions generalizing start with
  | nil =>
    obtain rfl := Except.ok.inj h
    exact hname.resolve_right List.not_mem_nil
  | cons definition definitions ih =>
    obtain ⟨next, hnext, h⟩ := Logged.exists_of_bind h
    refine ih h ?_
    rcases hname with hkept | hname
    · exact .inl (hkept.add next.value)
    · rcases List.mem_cons.mp hname with rfl | hname
      · exact .inl (Resource.name_of_read hnext ▸ keeps_add start.value next.value)
      · exact .inr hname

end Registry

/-- What loading survives: a table is read, under its name, exactly if nothing hinders, what ends
its reading is a hindrance, and tables without hindrances make a registry with a resource under
every one of their names. -/
theorem Registry.loads_iff_no_hindrance (name : String) (entries : List (Key × Value))
    (definitions : List (String × List (Key × Value))) :
    ((∃ reading, (Resource.read name (.dict entries)).result = .ok reading ∧
        reading.value.name = name) ↔
      ∀ failure, ¬ Resource.Hindrance name (Value.namedEntries entries) failure) ∧
    (∀ failure, (Resource.read name (.dict entries)).result = .error failure →
      Resource.Hindrance name (Value.namedEntries entries) failure) ∧
    ((∃ reading,
        (Registry.load (definitions.map fun d => (d.1, .dict d.2))).result = .ok reading ∧
        ∀ d ∈ definitions, ∃ r, reading.value.get? d.1 = some r ∧ r.name = d.1) ↔
      ∀ d ∈ definitions, ∀ failure,
        ¬ Resource.Hindrance d.1 (Value.namedEntries d.2) failure) := by
  refine ⟨?_, fun _ => Resource.hindrance_of_read_eq_error, ?_⟩
  · rw [← Resource.exists_read_iff]
    exact exists_congr fun reading => and_iff_left_of_imp Resource.name_of_read
  · have hread : (∃ reading,
        (Registry.load (definitions.map fun d => (d.1, .dict d.2))).result = .ok reading) ↔
          ∀ d ∈ definitions, ∀ failure,
            ¬ Resource.Hindrance d.1 (Value.namedEntries d.2) failure := by
      rw [Registry.load, Registry.exists_loadInto_iff, List.forall_mem_map]
      exact forall₂_congr fun d _ => Resource.exists_read_iff
    rw [← hread]
    refine exists_congr fun reading => and_iff_left_of_imp fun h d hd => ?_
    refine (Registry.keeps_of_loadInto h (.inr ?_)).exists_get?
    exact List.mem_map.mpr ⟨_, List.mem_map_of_mem hd, rfl⟩

/-- Crates with a query parameter, a pattern that is counted and an attribute that is none, and lids
with documentation that is no text. -/
def Registry.store : List (String × List (Key × Value)) :=
  [("crates",
      [(.name "get-entity", .dict [(.name "query", .list [.dict [(.name "name", .str "id")]])]),
        (.name "attributes",
          .dict [(.name "^size[0-9]{2,9}$", .str "STRING"), (.name "weight", .int 5)])]),
    ("lids", [(.name "docs", .int 1)])]

theorem Registry.loads_iff_no_hindrance_store :
    ∃ reading,
      (Registry.load (Registry.store.map fun d => (d.1, .dict d.2))).result = .ok reading ∧
      ∀ d ∈ Registry.store, ∃ r, reading.value.get? d.1 = some r ∧ r.name = d.1 := by
  refine (Registry.loads_iff_no_hindrance "crates" [] Registry.store).2.2.mpr ?_
  have hcounted : ¬ Attribute.Uncountable "^size[0-9]{2,9}$" := by
    rintro ⟨-, hparse⟩
    have hrounds : (Pattern.parse "^size[0-9]{2,9}$".toList).toOption.isSome = true := by
      decide +kernel
    rw [hparse] at hrounds
    cases hrounds
  have hliteral : ¬ Attribute.Uncountable "weight" := by
    rintro ⟨hpattern, -⟩
    revert hpattern
    decide
  simp only [Registry.store, List.forall_mem_cons, List.not_mem_nil, false_imp_iff, implies_true,
    and_true]
  refine ⟨?_, ?_⟩
  · rintro failure (⟨hoperation, hentry, hquery, -, hunlistable⟩ | ⟨hentry, hdeclared, -, hkey⟩)
    · have hget := Table.mem_of_find?_eq_some hentry
      simp only [Value.namedEntries, List.filterMap_cons, List.filterMap_nil, List.mem_cons,
        Prod.mk.injEq, Value.dict.injEq, List.not_mem_nil, or_false] at hget
      rcases hget with ⟨-, rfl⟩ | ⟨rfl, -⟩
      · obtain rfl := Option.some.inj hquery
        cases hunlistable
      · revert hoperation
        decide
    · obtain rfl := Value.dict.inj (Option.some.inj hentry)
      simp only [Value.namedEntries, List.filterMap_cons, List.filterMap_nil, List.mem_cons,
        List.not_mem_nil, or_false] at hdeclared
      rcases hdeclared with rfl | rfl
      · exact hcounted hkey
      · exact hliteral hkey
  · rintro failure (⟨-, hentry, -⟩ | ⟨hentry, -⟩)
    · have hdocs := Table.mem_of_find?_eq_some hentry
      simp [Value.namedEntries] at hdocs
    · cases hentry

theorem Registry.not_forall_read :
    ¬ ∀ name entries, ∃ reading, (Resource.read name (.dict entries)).result = .ok reading := by
  intro hread
  obtain ⟨reading, hreading⟩ :=
    hread "crates" [(.name "get-entity", .dict [(.name "query", .int 5)])]
  have hfailed : (Resource.read "crates"
      (.dict [(.name "get-entity", .dict [(.name "query", .int 5)])])).result =
        .error (.notIterable "int") := rfl
  cases hreading.symm.trans hfailed

end NextWord
