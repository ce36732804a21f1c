import NextWord.Proofs.Log.Results
import NextWord.Proofs.Outcome
import NextWord.Proofs.Table
import NextWord.Resource.Registry

/-!
# Attributes under their own keys

The attributes of a loaded resource stand under their own keys, each key once. Reading a definition
gives such a table, adding a resource to a registry keeps them, and so does putting an attribute
into a resource later. In such a table an attribute is found under its key, and nothing else is.
-/

namespace NextWord

/-- A table of attributes that stand under their own keys, each key once. -/
structure WellKeyed (attributes : Table String Attribute) : Prop where
  once : attributes.keys.Nodup
  own : ∀ entry ∈ attributes, entry.2.key = entry.1

namespace WellKeyed

variable {attributes : Table String Attribute}

theorem empty : WellKeyed [] :=
  ⟨List.nodup_nil, by simp⟩

theorem put (h : WellKeyed attributes) (a : Attribute) : WellKeyed (attributes.put a.key a) where
  once := Table.nodup_keys_put h.once a.key a
  own := by
    intro entry hentry
    rcases Table.mem_put hentry with rfl | hentry
    · rfl
    · exact h.own entry hentry

theorem ofPairs {pairs : List (String × Attribute)} (own : ∀ pair ∈ pairs, pair.2.key = pair.1) :
    WellKeyed (Table.ofPairs pairs) := by
  have hadded : ∀ attributes : Table String Attribute, WellKeyed attributes →
      WellKeyed (pairs.foldl (fun table pair => table.put pair.1 pair.2) attributes) := by
    induction pairs with
    | nil => exact fun _ h => h
    | cons pair pairs ih =>
      intro attributes h
      have hput := h.put pair.2
      rw [own pair List.mem_cons_self] at hput
      exact ih (fun p hp => own p (List.mem_cons_of_mem _ hp)) _ hput
  exact hadded [] empty

/-- An attribute is found under its key, and nothing else is. -/
theorem find?_eq_some_iff (h : WellKeyed attributes) {key : String} {a : Attribute} :
    attributes.find? key = some a ↔ a ∈ attributes.values ∧ a.key = key := by
  constructor
  · intro hfind
    have hmem := Table.mem_of_find?_eq_some hfind
    exact ⟨List.mem_map.mpr ⟨_, hmem, rfl⟩, h.own _ hmem⟩
  · rintro ⟨hmem, rfl⟩
    obtain ⟨entry, hentry, rfl⟩ := List.mem_map.mp hmem
    have hkey := h.own entry hentry
    exact Table.find?_of_mem h.once (by rw [hkey]; exact hentry)

end WellKeyed

section Loading

theorem key_of_ofDefinition {key : String} {definition : Entries} {a : Attribute}
    (h : Attribute.ofDefinition key definition = .ok (.ok a)) : a.key = key := by
  rw [Attribute.ofDefinition] at h
  split at h
  · cases h
  · cases h
  · split at h
    · cases h
    · split at h
      · cases h; rfl
      · cases h
    · cases h

theorem key_of_read {scope key : String} {definition : Value} {a : Attribute}
    (h : (Attribute.read scope key definition).result = .ok (.ok a)) : a.key = key := by
  simp only [Attribute.read] at h
  split at h
  · cases h
  · split at h
    · split at h
      · cases h
      · next hread =>
        cases h
        exact key_of_ofDefinition hread
      · cases h
    · cases h

theorem wellKeyed_collect {read : List (String × Except (List Problem) Attribute)}
    (own : ∀ key a, (key, .ok a) ∈ read → a.key = key) :
    WellKeyed (Attribute.collect read).value := by
  refine WellKeyed.ofPairs fun pair hpair => ?_
  obtain ⟨⟨key, outcome⟩, hmem, houtcome⟩ := List.mem_filterMap.mp hpair
  cases outcome with
  | ok a =>
    obtain rfl := Option.some.inj houtcome
    exact own key a hmem
  | error problems => cases houtcome

theorem wellKeyed_readAll {scope : String} {definitions : Entries}
    {reading : Reading (Table String Attribute)}
    (h : (Attribute.readAll scope definitions).result = .ok reading) : WellKeyed reading.value := by
  obtain ⟨read, hread, h⟩ := Logged.exists_of_bind h
  obtain ⟨-, -, h⟩ := Logged.exists_of_bind h
  obtain rfl := Except.ok.inj h
  refine wellKeyed_collect fun key a hmem => ?_
  obtain ⟨entry, -, hentry⟩ := Logged.exists_of_mem_each hread _ hmem
  obtain ⟨outcome, houtcome, hpair⟩ := Logged.exists_of_bind hentry
  cases hpair
  exact key_of_read houtcome

namespace Resource

theorem name_attributes_of_assemble {name : String} {fields : Entries}
    {attributes : Table String Attribute} {r : Resource}
    (h : assemble name fields attributes = .ok r) : r.name = name ∧ r.attributes = attributes := by
  obtain ⟨getEntity, -, h⟩ := exists_of_except_bind h
  obtain ⟨getCollection, -, h⟩ := exists_of_except_bind h
  obtain ⟨createEntity, -, h⟩ := exists_of_except_bind h
  obtain ⟨updateEntity, -, h⟩ := exists_of_except_bind h
  obtain ⟨deleteEntity, -, h⟩ := exists_of_except_bind h
  obtain rfl := Except.ok.inj h
  exact ⟨rfl, rfl⟩

/-- A table that was read gave its attributes first, and with them the resource. -/
theorem exists_of_readTable {name : String} {definition : Entries} {reading : Reading Resource}
    (h : (readTable name definition).result = .ok reading) :
    ∃ attributes, (Attribute.readAll name (Definition.tableEntry "attributes"
        (validFields name definition).value)).result = .ok attributes ∧
      assemble name (validFields name definition).value attributes.value = .ok reading.value := by
  obtain ⟨-, -, h⟩ := Logged.exists_of_bind h
  obtain ⟨-, -, h⟩ := Logged.exists_of_bind h
  obtain ⟨attributes, hattributes, h⟩ := Logged.exists_of_bind h
  obtain ⟨r, hr, h⟩ := Logged.exists_of_bind h
  obtain rfl := Except.ok.inj h
  exact ⟨attributes, hattributes, Logged.result_of_ofExcept hr⟩

/-- What is no table makes a resource with a name and nothing else. -/
theorem value_of_readOther {name : String} {definition : Value} {reading : Reading Resource}
    (h : (readOther name definition).result = .ok reading) : reading.value = { name } := by
  rw [readOther] at h
  split at h
  · cases h
  · obtain ⟨-, -, h⟩ := Logged.exists_of_bind h
    split at h
    · cases h
    · obtain rfl := Except.ok.inj h
      rfl

end Resource

/-- The attributes of a resource are those of the table under its entry for them; a definition that
is no table has none. -/
theorem attributes_of_read {name : String} {definition : Value} {reading : Reading Resource}
    (h : (Resource.read name definition).result = .ok reading) :
    reading.value.attributes = [] ∨ ∃ entries attributes, definition = .dict entries ∧
      (Attribute.readAll name (Definition.tableEntry "attributes"
        (Resource.validFields name (Value.namedEntries entries)).value)).result = .ok attributes ∧
      reading.value.attributes = attributes.value := by
  unfold Resource.read at h
  split at h
  · next entries =>
    obtain ⟨attributes, hattributes, hassemble⟩ := Resource.exists_of_readTable h
    exact .inr ⟨entries, attributes, rfl, hattributes,
      (Resource.name_attributes_of_assemble hassemble).2⟩
  · exact .inl (by rw [Resource.value_of_readOther h])

/-- A resource read from a definition has its attributes under their own keys. -/
theorem wellKeyed_read {name : String} {definition : Value} {reading : Reading Resource}
    (h : (Resource.read name definition).result = .ok reading) :
    WellKeyed reading.value.attributes := by
  rcases attributes_of_read h with hnone | ⟨entries, attributes, -, hattributes, hvalue⟩
  · rw [hnone]
    exact WellKeyed.empty
  · rw [hvalue]
    exact wellKeyed_readAll hattributes

end Loading

namespace Registry

/-- Whether something holds of every resource, by plural and by singular name. -/
def AllHold (P : Resource → Prop) (registry : Registry) : Prop :=
  (∀ entry ∈ registry.resources, P entry.2) ∧ ∀ entry ∈ registry.singular, P entry.2

section Resources

variable {P : Resource → Prop}

theorem allHold_empty : empty.AllHold P :=
  ⟨by simp [empty], by simp [empty]⟩

theorem AllHold.imp {Q : Resource → Prop} {registry : Registry} (h : registry.AllHold P)
    (hPQ : ∀ r, P r → Q r) : registry.AllHold Q :=
  ⟨fun entry hentry => hPQ _ (h.1 entry hentry), fun entry hentry => hPQ _ (h.2 entry hentry)⟩

theorem AllHold.add {registry : Registry} (h : registry.AllHold P) {r : Resource} (hr : P r) :
    (registry.add r).AllHold P := by
  have hput : ∀ {table : Table String Resource} (name : String),
      (∀ entry ∈ table, P entry.2) → ∀ entry ∈ table.put name r, P entry.2 := by
    intro table name htable entry hentry
    rcases Table.mem_put hentry with rfl | hentry
    · exact hr
    · exact htable entry hentry
  refine ⟨hput r.name h.1, ?_⟩
  rw [Registry.add]
  split
  · next name _ => exact hput name h.2
  · exact h.2

/-- What holds of every resource that is read holds of every resource that is loaded. -/
theorem AllHold.loadInto {definitions : Entries} {start reading : Reading Registry}
    (hstart : start.value.AllHold P)
    (hread : ∀ definition ∈ definitions, ∀ next,
      (Resource.read definition.1 definition.2).result = .ok next → P next.value)
    (h : (loadInto start definitions).result = .ok reading) : reading.value.AllHold P := by
  induction definitions generalizing start with
  | nil => exact Except.ok.inj h ▸ hstart
  | cons definition definitions ih =>
    obtain ⟨hfirst, hrest⟩ := List.forall_mem_cons.mp hread
    obtain ⟨next, hnext, h⟩ := Logged.exists_of_bind h
    exact ih (hstart.add (hfirst next hnext)) hrest h

theorem AllHold.of_get? {registry : Registry} (h : registry.AllHold P) {name : String}
    {r : Resource} (hr : registry.get? name = some r) : P r := by
  obtain ⟨hresources, hsingular⟩ := h
  rw [get?] at hr
  cases hplural : registry.resources.find? name with
  | some found =>
    rw [hplural] at hr
    obtain rfl := Option.some.inj hr
    exact hresources _ (Table.mem_of_find?_eq_some hplural)
  | none =>
    rw [hplural] at hr
    exact hsingular _ (Table.mem_of_find?_eq_some hr)

end Resources

def AllWellKeyed (registry : Registry) : Prop :=
  (∀ entry ∈ registry.resources, WellKeyed entry.2.attributes) ∧
    ∀ entry ∈ registry.singular, WellKeyed entry.2.attributes

theorem AllWellKeyed.of_get? {registry : Registry} (h : registry.AllWellKeyed) {name : String}
    {r : Resource} (hr : registry.get? name = some r) : WellKeyed r.attributes :=
  AllHold.of_get? (P := fun r => WellKeyed r.attributes) h hr

/-- An attribute put into a resource unchecked stands under its own key as well. -/
theorem allWellKeyed_putAttribute {registry : Registry} (h : registry.AllWellKeyed) (name : String)
    (a : Attribute) : (registry.putAttribute name a).AllWellKeyed := by
  rw [putAttribute]
  split
  · exact h
  · next found _ =>
    have hchange {table : Table String Resource}
        (htable : ∀ entry ∈ table, WellKeyed entry.2.attributes) :
        ∀ entry ∈ table.map fun entry =>
          (entry.1, if entry.2.name = found.name then
            { entry.2 with attributes := entry.2.attributes.put a.key a } else entry.2),
          WellKeyed entry.2.attributes := by
      intro entry hentry
      obtain ⟨⟨key, r⟩, hmem, rfl⟩ := List.mem_map.mp hentry
      have hkeyed : WellKeyed r.attributes := htable _ hmem
      by_cases hname : r.name = found.name
      · simpa [hname] using hkeyed.put a
      · simpa [hname] using hkeyed
    exact ⟨hchange h.1, hchange h.2⟩

/-- The resources of loaded definitions have their attributes under their own keys. -/
theorem allWellKeyed_of_load {definitions : Entries} {reading : Reading Registry}
    (h : (load definitions).result = .ok reading) : reading.value.AllWellKeyed :=
  AllHold.loadInto (P := fun r => WellKeyed r.attributes) allHold_empty
    (fun _ _ _ => wellKeyed_read) h

end Registry
end NextWord
