import NextWord.Header
import NextWord.Proofs.Table

/-!
# Headers in their latest spelling

A catalog answers by the headers that were added to it, whether one by one or many at a time. Of
those whose names differ in capitals only the last one counts, for the spelling that is offered as
well as for the request. Only the place in the list is that of the first one.
-/

namespace NextWord.HeaderCatalog

/-- The catalog that starts with some headers and to which others are added in turns. -/
def ofBatches (initial : List Header) (batches : List (List Header)) : HeaderCatalog :=
  batches.foldl addAll (addAll {} initial)

/-- A header that was added, and after it none whose name differs in capitals only. -/
def IsLatest (added : List Header) (header : Header) : Prop :=
  ∃ before after, added = before ++ header :: after ∧
    ∀ later ∈ after, key later.name ≠ key header.name

/-- How the headers were divided among the turns makes no difference. -/
theorem ofBatches_eq_addAll (initial : List Header) (batches : List (List Header)) :
    ofBatches initial batches = addAll {} (initial ++ batches.flatten) := by
  rw [addAll, List.foldl_append, List.foldl_flatten]
  rfl

theorem entries_addAll (added : List Header) :
    (addAll {} added).entries =
      added.foldl (fun table header => Table.put (key header.name) header table) [] :=
  (List.foldl_hom entries fun _ _ => rfl).symm

variable {added : List Header}

theorem find?_addAll (k : String) :
    (addAll {} added).entries.find? k =
      added.reverse.find? fun header => key header.name = k := by
  rw [entries_addAll, Table.find?_foldl_put]

theorem keys_addAll :
    (addAll {} added).entries.keys = (added.map fun header => key header.name).eraseDups := by
  rw [entries_addAll, Table.keys_foldl_put]

/-- What stands under a lower-case name is the latest header of that name. -/
theorem isLatest_of_find? {k : String} {header : Header}
    (h : (addAll {} added).entries.find? k = some header) :
    IsLatest added header ∧ key header.name = k := by
  rw [find?_addAll] at h
  obtain ⟨before, after, hsplit, hkey, hafter⟩ := exists_last_of_find?_reverse h
  obtain rfl := of_decide_eq_true hkey
  exact ⟨⟨before, after, hsplit, fun later hlater => of_decide_eq_false (hafter later hlater)⟩, rfl⟩

/-- The names that are offered, one for each lower-case name, in the order in which these came
first: each as the latest header spells it. -/
theorem forall₂_names :
    List.Forall₂ (fun k name => ∃ header, IsLatest added header ∧ key header.name = k ∧
        header.name = name)
      (added.map fun header => key header.name).eraseDups (addAll {} added).names := by
  have honce : (addAll {} added).entries.keys.Nodup := by
    rw [keys_addAll]
    exact Text.nodup_eraseDups _
  rw [← keys_addAll, names, List.forall₂_map_right_iff]
  refine (Table.forall₂_find? honce).imp fun k header hfind => ?_
  obtain ⟨hlatest, hkey⟩ := isLatest_of_find? hfind
  exact ⟨header, hlatest, hkey, rfl⟩

theorem has_addAll_iff {name : String} :
    (addAll {} added).has name = true ↔ ∃ header ∈ added, key header.name = key name := by
  rw [has, Table.has, Table.find?_isSome_iff, keys_addAll, List.mem_eraseDups, List.mem_map]

/-- A name is looked up in the latest header that has it in some spelling, if there is one. -/
theorem requestFor_addAll (name : String) :
    (∃ header, IsLatest added header ∧ key header.name = key name ∧
        (addAll {} added).requestFor name = header.request) ∨
      (∀ header ∈ added, key header.name ≠ key name) ∧
        (addAll {} added).requestFor name = none := by
  rw [requestFor]
  cases hfind : (addAll {} added).entries.find? (key name) with
  | some header =>
    obtain ⟨hlatest, hkey⟩ := isLatest_of_find? hfind
    exact .inl ⟨header, hlatest, hkey, rfl⟩
  | none =>
    rw [find?_addAll, List.find?_eq_none] at hfind
    exact .inr ⟨fun header hheader => by simpa using hfind header (List.mem_reverse.mpr hheader),
      rfl⟩

/-- A catalog offers one name for each lower-case name that was added, in the order of the first
additions and as the last addition spells it. What completes the value of a header is the request
of the last addition, and a header is there exactly if one was added, under any spelling. -/
theorem answers_by_latest (initial : List Header) (batches : List (List Header)) :
    let added := initial ++ batches.flatten
    let catalog := ofBatches initial batches
    List.Forall₂ (fun k name => ∃ header, IsLatest added header ∧ key header.name = k ∧
        header.name = name)
      (added.map fun header => key header.name).eraseDups catalog.names ∧
    (∀ name : String,
      ((∃ header, IsLatest added header ∧ key header.name = key name ∧
          catalog.requestFor name = header.request) ∨
        (∀ header ∈ added, key header.name ≠ key name) ∧ catalog.requestFor name = none) ∧
      (catalog.has name = true ↔ ∃ header ∈ added, key header.name = key name)) := by
  rw [ofBatches_eq_addAll]
  exact ⟨forall₂_names, fun name => ⟨requestFor_addAll name, has_addAll_iff⟩⟩

/-- A header in two spellings stands where the first was added, as the second has it. -/
example :
    let catalog := ofBatches [{ name := "X-Region" }, { name := "X-Shop" }] [[{ name := "x-REGION" }]]
    catalog.names = ["x-REGION", "X-Shop"] := by
  decide +kernel

end NextWord.HeaderCatalog
