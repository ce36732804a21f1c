import Mathlib.Data.Multiset.Bind
import NextWord.Proofs.Table
import NextWord.Schema.Validation
import NextWord.Settings.Configuration

/-!
# Checking a table entry by entry

A field looks at the entry of its own name only, and reports under that name. Where no field is
required, a table has the problems that its entries have one by one, in another order: the fields
give the order in one case, the entries in the other.
-/

namespace NextWord

/-- Two loops inside one another may change places, up to the order of what they collect. -/
theorem flatMap_flatMap_perm {α β γ : Type} (f : α → β → List γ) (as : List α) (bs : List β) :
    (as.flatMap fun a => bs.flatMap (f a)).Perm
      (bs.flatMap fun b => as.flatMap fun a => f a b) := by
  rw [← Multiset.coe_eq_coe]
  simp only [← Multiset.coe_bind]
  exact Multiset.bind_bind _ _

namespace SchemaField

variable {field : SchemaField} {scope : String} {data : Entries} {entry : String × Value}

/-- A field depends on the entry of its name. -/
theorem problems_congr {other : Entries} (h : data.find? field.name = other.find? field.name) :
    field.problems scope data = field.problems scope other := by
  rw [problems, h]
  rfl

theorem problems_of_find?_eq_none (optional : field.required = false)
    (h : data.find? field.name = none) : field.problems scope data = [] := by
  simp [problems, h, optional]

/-- A field reports under its own name. -/
theorem field_of_mem_problems {p : Problem} (h : p ∈ field.problems scope data) :
    p.field = field.name := by
  simp only [problems] at h
  split at h
  · split at h
    · rw [List.mem_singleton.mp h]
    · cases h
  · split at h
    · rw [List.mem_singleton.mp h]
    · split at h
      · rw [List.mem_singleton.mp h]
      · obtain ⟨message, -, rfl⟩ := List.mem_map.mp h
        rfl

structure Accepts (field : SchemaField) (v : Value) : Prop where
  type : field.hasType v = true
  choice : field.isChoice v = true
  check : field.check v = []

theorem accepts_of_problems {v : Value} (hv : v ≠ .null)
    (h : field.problems scope [(field.name, v)] = []) : field.Accepts v := by
  simp only [problems, Table.find?, if_true, Option.getD_some] at h
  split at h
  · cases h
  · next htype =>
    split at h
    · cases h
    · next hchoice =>
      exact ⟨by simpa using htype, by simpa using hchoice, List.map_eq_nil_iff.mp h⟩

/-- An optional field reports what it reports about the entries, one by one. -/
theorem problems_eq_flatMap (optional : field.required = false) (once : data.keys.Nodup) :
    field.problems scope data = data.flatMap fun entry => field.problems scope [entry] := by
  induction data with
  | nil => exact problems_of_find?_eq_none optional rfl
  | cons entry rest ih =>
    obtain ⟨hfirst, hrest⟩ := List.nodup_cons.mp once
    rw [List.flatMap_cons, ← ih hrest]
    by_cases hname : entry.1 = field.name
    · -- The name comes once, so the field finds nothing behind this entry.
      have hnone : Table.find? field.name rest = none := by
        rw [← Option.not_isSome_iff_eq_none, Table.find?_isSome_iff, ← hname]
        exact hfirst
      rw [problems_of_find?_eq_none optional hnone, List.append_nil]
      exact problems_congr (by simp [Table.find?, hname])
    · have hnone : Table.find? field.name [entry] = none := by simp [Table.find?, hname]
      rw [problems_of_find?_eq_none optional hnone, List.nil_append]
      exact problems_congr (by simp [Table.find?, hname])

end SchemaField

namespace Schema

variable {schema : Schema} {scope : String} {table : Entries} {entry : String × Value}

variable (optional : ∀ field ∈ schema, field.required = false)
include optional

/-- The problems of a table are those of its entries. -/
theorem problems_perm_flatMap (once : table.keys.Nodup) :
    (schema.problems scope table).Perm
      (table.flatMap fun entry => schema.problems scope [entry]) := by
  have hfields : schema.problems scope table =
      schema.flatMap fun field => table.flatMap fun entry => field.problems scope [entry] :=
    List.flatMap_congr fun field hfield =>
      SchemaField.problems_eq_flatMap (optional field hfield) once
  rw [hfields]
  exact flatMap_flatMap_perm _ _ _

theorem field_of_mem_problems_entry {p : Problem} (h : p ∈ schema.problems scope [entry]) :
    p.field = entry.1 := by
  obtain ⟨field, hfield, hp⟩ := List.mem_flatMap.mp h
  rw [SchemaField.field_of_mem_problems hp]
  by_contra hname
  rw [SchemaField.problems_of_find?_eq_none (optional field hfield)
    (by simp [Table.find?, Ne.symm hname])] at hp
  cases hp

/-- An entry has no problems of its own exactly if the table has none under its name. -/
theorem problems_entry_eq_nil_iff (once : table.keys.Nodup) (hentry : entry ∈ table) :
    schema.problems scope [entry] = [] ↔
      ∀ p ∈ schema.problems scope table, p.field ≠ entry.1 := by
  have hperm : (schema.problems scope table).Perm _ := problems_perm_flatMap optional once
  constructor
  · intro hnil p hp hname
    obtain ⟨other, hother, hp⟩ := List.mem_flatMap.mp (hperm.mem_iff.mp hp)
    have hsame : other = entry :=
      List.inj_on_of_nodup_map once hother hentry
        ((field_of_mem_problems_entry optional hp).symm.trans hname)
    rw [hsame, hnil] at hp
    cases hp
  · intro hnone
    refine List.eq_nil_iff_forall_not_mem.mpr fun p hp => ?_
    exact hnone p (hperm.mem_iff.mpr (List.mem_flatMap.mpr ⟨entry, hentry, hp⟩))
      (field_of_mem_problems_entry optional hp)

/-- Of fields with names of their own one at most is concerned with an entry. -/
theorem problems_entry (distinct : schema.names.Nodup) :
    schema.problems scope [entry] =
      match schema.field? entry.1 with
      | some field => field.problems scope [entry]
      | none => [] := by
  induction schema with
  | nil => rfl
  | cons field schema ih =>
    obtain ⟨hfirst, hdistinct⟩ := List.nodup_cons.mp distinct
    obtain ⟨hoptional, hothers⟩ := List.forall_mem_cons.mp optional
    rw [problems, List.flatMap_cons, field?, List.find?_cons]
    by_cases hname : field.name = entry.1
    · have hnone : problems schema scope [entry] = [] := by
        refine List.flatMap_eq_nil_iff.mpr fun other hother => ?_
        have hother_name : entry.1 ≠ other.name := by
          intro hsame
          exact hfirst (hname.trans hsame ▸ List.mem_map_of_mem hother)
        exact SchemaField.problems_of_find?_eq_none (hothers other hother)
          (by simp [Table.find?, hother_name])
      rw [← problems, hnone, List.append_nil]
      simp [hname]
    · rw [SchemaField.problems_of_find?_eq_none hoptional (by simp [Table.find?, Ne.symm hname]),
        List.nil_append, ← problems, ih hothers hdistinct, field?,
        beq_eq_false_iff_ne.mpr hname]

end Schema

def SchemaField.declaredDefault (field : SchemaField) : Option (String × Value) :=
  match field.default with
  | .null => none
  | v => some (field.name, v)

namespace Configuration

theorem defaultsOf_eq (schema : Schema) :
    defaultsOf schema = Table.ofPairs (schema.filterMap SchemaField.declaredDefault) :=
  rfl

theorem keys_declaredDefault_sublist (schema : Schema) :
    (Table.keys (schema.filterMap SchemaField.declaredDefault)).Sublist schema.names := by
  induction schema with
  | nil => exact .slnil
  | cons field schema ih =>
    rw [List.filterMap_cons, SchemaField.declaredDefault]
    cases field.default with
    | null => exact ih.cons field.name
    | _ => exact ih.cons_cons field.name

/-- What a configuration answers by default is what the field declares. -/
theorem find?_defaultsOf {schema : Schema} {field : SchemaField} (distinct : schema.names.Nodup)
    (h : field ∈ schema) (hdefault : field.default ≠ .null) :
    (defaultsOf schema).find? field.name = some field.default := by
  have honce := distinct.sublist (keys_declaredDefault_sublist schema)
  rw [defaultsOf_eq, Table.ofPairs_eq_self honce]
  refine Table.find?_of_mem honce (List.mem_filterMap.mpr ⟨field, h, ?_⟩)
  rw [SchemaField.declaredDefault]
  split
  · next hnull => exact absurd hnull hdefault
  · rfl

end Configuration
end NextWord
