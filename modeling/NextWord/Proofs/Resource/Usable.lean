import NextWord.Proofs.Resource.Independence

/-!
# Loaded attributes are usable

What loading lets through needs no second look: an attribute stands under its own key, a key that is
a pattern can be read, the type has the arguments of its kind and no others, and all conditions that
were declared are texts. Each of these is made sure of at a different stage of reading, by the
checks of the fields, by the reader of types or by the reader of patterns.
-/

namespace NextWord

namespace AttributeType

/-- What is left of a text without the blanks around it, unless nothing is. -/
theorem isTrimmed_ofList_strip {text : List Char} (h : Text.strip text ≠ []) :
    String.ofList (Text.strip text) ≠ "" ∧
      Text.IsTrimmed (String.ofList (Text.strip text)).toList := by
  rw [String.toList_ofList]
  refine ⟨fun hempty => h ?_, Text.isTrimmed_strip text⟩
  have hnil := congrArg String.toList hempty
  rwa [String.toList_ofList] at hnil

/-- A type with the arguments of its kind: an enumeration has values, a reference a target. -/
structure IsProper (t : AttributeType) : Prop where
  values : t.kind = .enum → t.enumValues ≠ [] ∧
    ∀ v ∈ t.enumValues, v ≠ "" ∧ ',' ∉ v.toList ∧ Text.IsTrimmed v.toList
  no_values : t.kind ≠ .enum → t.enumValues = []
  target : t.kind = .resourceRef → t.target ≠ "" ∧ Text.IsTrimmed t.target.toList
  no_target : t.kind ≠ .resourceRef → t.target = ""

theorem of_mem_listedValues {argument : List Char} {v : String} (h : v ∈ listedValues argument) :
    v ≠ "" ∧ ',' ∉ v.toList ∧ Text.IsTrimmed v.toList := by
  obtain ⟨piece, hpiece, hvalue⟩ := List.mem_filterMap.mp h
  dsimp only at hvalue
  split at hvalue
  · cases hvalue
  · next hne =>
    obtain rfl := Option.some.inj hvalue
    obtain ⟨hproper, htrimmed⟩ := isTrimmed_ofList_strip fun h => hne (List.isEmpty_iff.mpr h)
    have hcomma : ',' ∉ (String.ofList (Text.strip piece)).toList := by
      rw [String.toList_ofList]
      exact fun h => Text.not_mem_of_mem_splitOn hpiece (Text.mem_of_mem_strip h)
    exact ⟨hproper, hcomma, htrimmed⟩

theorem isProper_of_parse {text : String} {t : AttributeType} (h : parse text = .ok t) :
    t.IsProper := by
  rw [parse] at h
  dsimp only at h
  split at h
  · cases h
  · split at h
    · cases h
    · next hne =>
      obtain rfl := Except.ok.inj h
      exact ⟨fun _ => ⟨hne, fun _ => of_mem_listedValues⟩, by simp, by simp, by simp⟩
  · split at h
    · cases h
    · next argument hne =>
      obtain rfl := Except.ok.inj h
      exact ⟨by simp, by simp, fun _ => isTrimmed_ofList_strip hne, by simp⟩
  · next kind not_enum not_reference _ =>
    obtain rfl := Except.ok.inj h
    exact ⟨fun h => absurd h not_enum, by simp, fun h => absurd h not_reference, by simp⟩

end AttributeType

namespace Attribute

/-- The conditions that the fields of a definition declare: none, or a list of texts. -/
def DeclaresConditions (fields : Entries) (conditions : List String) : Prop :=
  (fields.find? "conditions").getD .null = .null ∧ conditions = [] ∨
    fields.find? "conditions" = some (.list (conditions.map .str))

/-- An attribute that can be used as it was declared under its key. -/
structure IsUsable (key : String) (definition : Value) (a : Attribute) : Prop where
  own : a.key = key
  pattern : Pattern.isPatternKey key = true →
    ∃ segments, Pattern.parse key.toList = .ok segments
  type : a.type.IsProper
  conditions : ∃ fields, fields? definition = some fields ∧ DeclaresConditions fields a.conditions

section Reading

variable {scope key : String} {definition : Value} {fields : Entries} {a : Attribute}

theorem keyFault_eq_ok_none_iff : keyFault key = .ok none ↔
    (Pattern.isPatternKey key = true → ∃ segments, Pattern.parse key.toList = .ok segments) := by
  rw [keyFault]
  by_cases hkey : Pattern.isPatternKey key = true
  · rw [if_pos hkey]
    split
    · next hparse => simp [hparse]
    · next hparse => simp [hkey, hparse]
    · next hparse => simp [hkey, hparse]
  · simp [hkey]

theorem eq_map_str {items : List Value} (h : ∀ item ∈ items, ∃ text, item = .str text) :
    items = (items.filterMap fun item =>
      match item with
      | .str text => some text
      | _ => none).map .str := by
  induction items with
  | nil => rfl
  | cons item items ih =>
    obtain ⟨⟨text, rfl⟩, hitems⟩ := List.forall_mem_cons.mp h
    exact congrArg (Value.str text :: ·) (ih hitems)

/-- The check of the conditions lets through what they are read as. -/
theorem declaresConditions_of_problems (h : attributeSchema.problems scope fields = []) :
    DeclaresConditions fields (Definition.textsEntry "conditions" fields) := by
  have hfield := List.flatMap_eq_nil_iff.mp h _ (List.mem_of_getElem? (i := 3) rfl)
  simp only [SchemaField.problems] at hfield
  rw [DeclaresConditions, Definition.textsEntry]
  cases hfind : fields.find? "conditions" with
  | none => exact .inl ⟨rfl, rfl⟩
  | some v =>
    cases v with
    | null => exact .inl ⟨rfl, rfl⟩
    | list items =>
      simp [hfind, SchemaField.hasType, FieldType.accepts, SchemaField.isChoice] at hfield
      have htexts : ∀ item ∈ items, ∃ text, item = .str text := by
        intro item hitem
        have hnone := hfield item hitem
        cases item with
        | str text => exact ⟨text, rfl⟩
        | _ => simp at hnone
      exact .inr (congrArg some (congrArg Value.list (eq_map_str htexts)))
    | _ => simp [hfind, SchemaField.hasType, FieldType.accepts] at hfield

theorem exists_fields_of_read (h : (read scope key definition).result = .ok (.ok a)) :
    ∃ fields, fields? definition = some fields ∧
      attributeSchema.problems s!"{scope}.{key}" fields = [] ∧
      ofDefinition key fields = .ok (.ok a) := by
  simp only [read] at h
  split at h
  · cases h
  · next fields hfields =>
    split at h
    · next hproblems =>
      refine ⟨fields, hfields, hproblems, ?_⟩
      split at h
      · cases h
      · next hread => rwa [← Except.ok.inj (Except.ok.inj h)]
      · cases h
    · cases h

theorem isUsable_of_read (h : (read scope key definition).result = .ok (.ok a)) :
    IsUsable key definition a := by
  obtain ⟨fields, hfields, hproblems, h⟩ := exists_fields_of_read h
  rw [ofDefinition] at h
  split at h
  · cases h
  · cases h
  · next hkey =>
    split at h
    · cases h
    · split at h
      · next type htype =>
        obtain rfl := Except.ok.inj (Except.ok.inj h)
        exact ⟨rfl, keyFault_eq_ok_none_iff.mp hkey, AttributeType.isProper_of_parse htype,
          fields, hfields, declaresConditions_of_problems hproblems⟩
      · cases h
    · cases h

/-- What is read into a table is read from the definition of its key. -/
theorem exists_of_mem_readAll {definitions : Entries} {reading : Reading (Table String Attribute)}
    (h : (readAll scope definitions).result = .ok reading) {entry : String × Attribute}
    (hentry : entry ∈ reading.value) : ∃ definition, (entry.1, definition) ∈ definitions ∧
      (read scope entry.1 definition).result = .ok (.ok entry.2) := by
  rw [readAll_eq_bind] at h
  obtain ⟨outcomes, houtcomes, h⟩ := Logged.exists_of_bind h
  obtain rfl := Except.ok.inj h
  obtain ⟨⟨key, outcome⟩, hmem, hpair⟩ := List.mem_filterMap.mp (Table.mem_of_mem_ofPairs hentry)
  cases outcome with
  | error problems => cases hpair
  | ok found =>
    obtain rfl := Option.some.inj hpair
    obtain ⟨⟨declared, definition⟩, hdefinition, hread⟩ :=
      Logged.exists_of_mem_each houtcomes _ hmem
    obtain ⟨outcome, houtcome, h⟩ := Logged.exists_of_bind hread
    obtain ⟨rfl, rfl⟩ := Prod.mk.inj (Except.ok.inj h)
    exact ⟨definition, hdefinition, houtcome⟩

end Reading

end Attribute

namespace Resource

def DeclaresAttribute (definition : Value) (key : String) (declared : Value) : Prop :=
  ∃ entries table, definition = .dict entries ∧
    (Value.namedEntries entries).find? "attributes" = some (.dict table) ∧
    (key, declared) ∈ Value.namedEntries table

/-- A resource of which a definition declares all attributes so that they can be used. -/
def IsUsable (definitions : Entries) (r : Resource) : Prop :=
  ∀ entry ∈ r.attributes, ∃ definition declared, (r.name, definition) ∈ definitions ∧
    DeclaresAttribute definition entry.1 declared ∧ Attribute.IsUsable entry.1 declared entry.2

theorem isUsable_of_read {definitions : Entries} {definition : String × Value}
    (hdefinition : definition ∈ definitions) {reading : Reading Resource}
    (h : (read definition.1 definition.2).result = .ok reading) :
    IsUsable definitions reading.value := by
  intro entry hentry
  rcases attributes_of_read h with hnone | ⟨entries, attributes, hdict, hattributes, hvalue⟩
  · simp [hnone] at hentry
  · rw [hvalue] at hentry
    obtain ⟨declared, hdeclared, hread⟩ := Attribute.exists_of_mem_readAll hattributes hentry
    obtain ⟨table, htable, hmem⟩ := (mem_tableEntry_attributes_iff _).mp hdeclared
    refine ⟨definition.2, declared, ?_, ⟨entries, table, hdict, htable, hmem⟩,
      Attribute.isUsable_of_read hread⟩
    rwa [name_of_read h]

/-- The keys of a usable resource that are patterns can be read. -/
theorem IsUsable.exists_parse {definitions : Entries} {r : Resource} (h : r.IsUsable definitions)
    {a : Attribute} (ha : a ∈ r.patternAttributes) :
    ∃ segments, Pattern.parse a.key.toList = .ok segments := by
  obtain ⟨hvalue, hpattern⟩ := List.mem_filter.mp ha
  obtain ⟨entry, hentry, rfl⟩ := List.mem_map.mp hvalue
  obtain ⟨_, _, _, _, husable⟩ := h entry hentry
  rw [Attribute.isPattern, husable.own] at hpattern
  rw [husable.own]
  exact husable.pattern hpattern

end Resource

/-- The resources of loaded definitions can be used. -/
theorem Registry.allHold_isUsable_of_load {definitions : Entries} {reading : Reading Registry}
    (h : (load definitions).result = .ok reading) :
    reading.value.AllHold (Resource.IsUsable definitions) :=
  allHold_empty.loadInto (fun _ hdefinition _ => Resource.isUsable_of_read hdefinition) h

end NextWord
