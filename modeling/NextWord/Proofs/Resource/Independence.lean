import Mathlib.Data.List.Nodup
import NextWord.Proofs.Resource.LoadingOutcome

/-!
# Attributes are read one by one

What is read of the definition of an attribute depends on the definition, its key and the place of
the table, and on none of the other definitions. So the attributes and the problems of a table are
those of its entries, put together in order, and each problem is logged once, behind all warnings.
The one thing that concerns all entries is a key whose rounds cannot be counted: nothing at all is
read of its table.
-/

namespace NextWord

namespace Logged

variable {α β : Type}

theorem mem_log_bind {x : Logged α} {f : α → Logged β} {line : LogEntry}
    (h : line ∈ (bind x f).log) : line ∈ x.log ∨ ∃ a, line ∈ (f a).log := by
  rw [bind] at h
  split at h
  · next a _ => exact (List.mem_append.mp h).imp_right fun h => ⟨a, h⟩
  · exact .inl h

/-- What is logged for a list is logged for its elements. -/
theorem exists_of_mem_log_each {f : α → Logged β} {items : List α} {line : LogEntry}
    (h : line ∈ (each f items).log) : ∃ a ∈ items, line ∈ (f a).log := by
  induction items with
  | nil => cases h
  | cons a items ih =>
    have hrest : line ∈ (each f items).log → ∃ b ∈ a :: items, line ∈ (f b).log := by
      intro h
      obtain ⟨item, hitem, hline⟩ := ih h
      exact ⟨item, List.mem_cons_of_mem a hitem, hline⟩
    rcases mem_log_bind h with h | ⟨b, h⟩
    · exact ⟨a, List.mem_cons_self, h⟩
    · rcases mem_log_bind h with h | ⟨bs, h⟩
      · exact hrest h
      · cases h

end Logged

namespace Attribute

/-- What a table is made of: the outcome of a definition under its key. -/
def readEntry (scope : String) (entry : String × Value) :
    Logged (String × Except (List Problem) Attribute) :=
  (read scope entry.1 entry.2).bind fun outcome => Logged.pure (entry.1, outcome)

theorem readAll_eq_bind (scope : String) (definitions : Entries) :
    readAll scope definitions = (Logged.each (readEntry scope) definitions).bind fun read =>
      ⟨(collect read).problems.map Problem.entry, .ok (collect read)⟩ := by
  have hlast (read : List (String × Except (List Problem) Attribute)) :
      (Logged.write ((collect read).problems.map Problem.entry)).bind
        (fun _ => Logged.pure (collect read)) =
          ⟨(collect read).problems.map Problem.entry, .ok (collect read)⟩ := by
    simp [Logged.bind, Logged.write, Logged.pure]
  exact congrArg (Logged.bind _) (funext hlast)

/-- What is read of a definition that is alone in its table. -/
def alone (scope : String) (entry : String × Value) : Reading (Table String Attribute) :=
  match (readAll scope [entry]).result with
  | .ok reading => reading
  | .error _ => ⟨[], []⟩

/-- A definition that is read is accepted without a problem, or rejected with one. -/
def IsDecided (key : String) (reading : Reading (Table String Attribute)) : Prop :=
  (∃ a, reading.value = [(key, a)] ∧ reading.problems = []) ∨
    (reading.value = [] ∧ reading.problems ≠ [])

section Single

variable {scope key : String} {definition : Value}

theorem ne_nil_of_read {problems : List Problem}
    (h : (read scope key definition).result = .ok (.error problems)) : problems ≠ [] := by
  simp only [read] at h
  split at h
  · obtain rfl := Except.error.inj (Except.ok.inj h)
    simp
  · split at h
    · split at h
      · cases h
      · cases h
      · obtain rfl := Except.error.inj (Except.ok.inj h)
        simp
    · next hne =>
      obtain rfl := Except.error.inj (Except.ok.inj h)
      exact hne

/-- Reading a definition logs warnings only. -/
theorem severity_of_mem_log_read {line : LogEntry} (h : line ∈ (read scope key definition).log) :
    line.severity = .warning := by
  have hwarning (messages : List String) (h : line ∈ messages.map LogEntry.warning) :
      line.severity = .warning := by
    obtain ⟨message, -, rfl⟩ := List.mem_map.mp h
    rfl
  simp only [read] at h
  split at h
  · cases h
  · split at h
    · split at h <;> exact hwarning _ h
    · exact hwarning _ h

theorem readAll_singleton {entry : String × Value} {outcome : Except (List Problem) Attribute}
    (h : (read scope entry.1 entry.2).result = .ok outcome) :
    (readAll scope [entry]).result = .ok (collect [(entry.1, outcome)]) := by
  have hentry : (readEntry scope entry).result = .ok (entry.1, outcome) :=
    Logged.result_bind_eq_ok_iff.mpr ⟨outcome, h, rfl⟩
  rw [readAll_eq_bind]
  exact Logged.result_bind_eq_ok_iff.mpr
    ⟨_, Logged.result_each_eq_ok_iff.mpr (.cons hentry .nil), rfl⟩

theorem alone_eq_collect {entry : String × Value} {outcome : Except (List Problem) Attribute}
    (h : (read scope entry.1 entry.2).result = .ok outcome) :
    alone scope entry = collect [(entry.1, outcome)] := by
  rw [alone, readAll_singleton h]

theorem isDecided_alone {entry : String × Value} {outcome : Except (List Problem) Attribute}
    (h : (read scope entry.1 entry.2).result = .ok outcome) :
    IsDecided entry.1 (alone scope entry) := by
  rw [alone_eq_collect h]
  cases outcome with
  | ok a => exact .inl ⟨a, rfl, rfl⟩
  | error problems => exact .inr ⟨rfl, by simpa [collect] using ne_nil_of_read h⟩

end Single

section Tables

variable {scope : String} {definitions : Entries} {reading : Reading (Table String Attribute)}

def accepted? : String × Except (List Problem) Attribute → Option (String × Attribute)
  | (key, .ok a) => some (key, a)
  | (_, .error _) => none

theorem value_collect {read : List (String × Except (List Problem) Attribute)}
    (once : (read.map Prod.fst).Nodup) : (collect read).value = read.filterMap accepted? := by
  have hcollect : (collect read).value = Table.ofPairs (read.filterMap accepted?) := by
    refine congrArg Table.ofPairs (List.filterMap_congr fun pair _ => ?_)
    obtain ⟨key, problems | a⟩ := pair <;> rfl
  rw [hcollect]
  refine Table.ofPairs_eq_self (List.Nodup.sublist ?_ once)
  clear once hcollect
  induction read with
  | nil => exact .slnil
  | cons pair read ih =>
    obtain ⟨key, problems | a⟩ := pair
    · exact ih.cons key
    · exact ih.cons_cons key

/-- Outcomes under keys of their own are sorted one by one. -/
theorem collect_eq_flatMap {read : List (String × Except (List Problem) Attribute)}
    (once : (read.map Prod.fst).Nodup) :
    (collect read).value = read.flatMap (fun pair => (collect [pair]).value) ∧
      (collect read).problems = read.flatMap (fun pair => (collect [pair]).problems) := by
  refine ⟨?_, ?_⟩
  · rw [value_collect once]
    induction read with
    | nil => rfl
    | cons pair read ih =>
      have hfirst : (collect [pair]).value = (accepted? pair).toList := by
        rw [value_collect (by simp)]
        cases h : accepted? pair <;> simp [h]
      rw [List.flatMap_cons, ← ih (List.nodup_cons.mp once).2, hfirst]
      cases h : accepted? pair <;> simp [h]
  · simp [collect]

/-- What is read of a table, pair by pair with its definitions. -/
theorem exists_outcomes (h : (readAll scope definitions).result = .ok reading) :
    ∃ read : List (String × Except (List Problem) Attribute), reading = collect read ∧
      List.Forall₂ (fun entry pair => pair.1 = entry.1 ∧
        (Attribute.read scope entry.1 entry.2).result = .ok pair.2) definitions read := by
  rw [readAll_eq_bind] at h
  obtain ⟨read, hread, h⟩ := Logged.exists_of_bind h
  refine ⟨read, (Except.ok.inj h).symm, (Logged.result_each_eq_ok_iff.mp hread).imp ?_⟩
  intro entry pair hpair
  obtain ⟨outcome, houtcome, h⟩ := Logged.exists_of_bind hpair
  obtain rfl := Except.ok.inj h
  exact ⟨rfl, houtcome⟩

/-- A table is read exactly if no attribute, itself in order, has a key whose rounds cannot be
counted. -/
theorem exists_readAll_iff : (∃ reading, (readAll scope definitions).result = .ok reading) ↔
    ∀ entry ∈ definitions, InOrder scope entry.1 entry.2 → ¬ Uncountable entry.1 := by
  constructor
  · rintro ⟨reading, h⟩ entry hentry
    exact not_uncountable_of_readAll h hentry
  · intro hcountable
    cases h : (readAll scope definitions).result with
    | ok reading => exact ⟨reading, rfl⟩
    | error failure =>
      obtain ⟨entry, hentry, ⟨horder, hkey⟩, -⟩ := exists_of_readAll_eq_error h
      exact absurd hkey (hcountable entry hentry horder)

theorem isDecided_of_readAll (h : (readAll scope definitions).result = .ok reading) :
    ∀ entry ∈ definitions, IsDecided entry.1 (alone scope entry) := by
  intro entry hentry
  have hread := exists_readAll_iff.mp ⟨reading, h⟩ entry hentry
  cases houtcome : (Attribute.read scope entry.1 entry.2).result with
  | ok outcome => exact isDecided_alone houtcome
  | error failure =>
    obtain ⟨⟨horder, hkey⟩, -⟩ := read_eq_error_iff.mp houtcome
    exact absurd hkey (hread horder)

/-- The attributes and the problems of a table are those of its definitions alone. -/
theorem readAll_eq_flatMap (once : definitions.keys.Nodup)
    (h : (readAll scope definitions).result = .ok reading) :
    reading.value = definitions.flatMap (fun entry => (alone scope entry).value) ∧
      reading.problems = definitions.flatMap (fun entry => (alone scope entry).problems) := by
  obtain ⟨read, rfl, hpairs⟩ := exists_outcomes h
  have hkeys : read.map Prod.fst = definitions.keys := by
    clear once h
    induction hpairs with
    | nil => rfl
    | cons hpair _ ih => exact congrArg₂ List.cons hpair.1 ih
  have halone : definitions.map (alone scope) = read.map fun pair => collect [pair] := by
    clear once h hkeys
    induction hpairs with
    | nil => rfl
    | @cons entry pair definitions read hpair _ ih =>
      rw [List.map_cons, List.map_cons, ih, alone_eq_collect hpair.2, ← hpair.1]
  have hmap {β : Type} (part : Reading (Table String Attribute) → List β) :
      read.flatMap (fun pair => part (collect [pair])) =
        definitions.flatMap fun entry => part (alone scope entry) := by
    have hparts := congrArg (fun readings => (readings.map part).flatten) halone
    simpa [List.flatMap_def, Function.comp_def] using hparts.symm
  obtain ⟨hvalue, hproblems⟩ := collect_eq_flatMap (hkeys ▸ once)
  rw [hvalue, hproblems]
  exact ⟨hmap Reading.value, hmap Reading.problems⟩

theorem keys_readAll_sublist (once : definitions.keys.Nodup)
    (h : (readAll scope definitions).result = .ok reading) :
    reading.value.keys.Sublist definitions.keys := by
  have hdecided := isDecided_of_readAll h
  rw [(readAll_eq_flatMap once h).1]
  clear once h
  induction definitions with
  | nil => exact .slnil
  | cons entry definitions ih =>
    obtain ⟨hfirst, hrest⟩ := List.forall_mem_cons.mp hdecided
    rw [List.flatMap_cons, Table.keys, List.map_append]
    rcases hfirst with ⟨a, hvalue, -⟩ | ⟨hvalue, -⟩
    · rw [hvalue]
      exact (ih hrest).cons_cons entry.1
    · rw [hvalue]
      exact (ih hrest).cons entry.1

/-- The definition of a key alone accounts for what the key stands for. -/
theorem find?_of_readAll (once : definitions.keys.Nodup)
    (h : (readAll scope definitions).result = .ok reading) {entry : String × Value}
    (hentry : entry ∈ definitions) :
    reading.value.find? entry.1 = (alone scope entry).value.find? entry.1 := by
  have hdecided := isDecided_of_readAll h
  have honce : reading.value.keys.Nodup := once.sublist (keys_readAll_sublist once h)
  have hmem (a : Attribute) :
      (entry.1, a) ∈ reading.value ↔ (entry.1, a) ∈ (alone scope entry).value := by
    rw [(readAll_eq_flatMap once h).1, List.mem_flatMap]
    refine ⟨?_, fun ha => ⟨entry, hentry, ha⟩⟩
    rintro ⟨other, hother, ha⟩
    have hkey : entry.1 = other.1 := by
      rcases hdecided other hother with ⟨b, hvalue, -⟩ | ⟨hvalue, -⟩
      · rw [hvalue, List.mem_singleton] at ha
        exact (Prod.mk.inj ha).1
      · simp [hvalue] at ha
    obtain rfl := List.inj_on_of_nodup_map once hentry hother hkey
    exact ha
  have halone : (alone scope entry).value.keys.Nodup := by
    rcases hdecided entry hentry with ⟨a, hvalue, -⟩ | ⟨hvalue, -⟩ <;> simp [hvalue, Table.keys]
  refine Option.ext fun a => ⟨fun ha => ?_, fun ha => ?_⟩
  · exact Table.find?_of_mem halone ((hmem a).mp (Table.mem_of_find?_eq_some ha))
  · exact Table.find?_of_mem honce ((hmem a).mpr (Table.mem_of_find?_eq_some ha))

/-- A key is accepted if its definition alone has no problem. -/
theorem mem_keys_readAll_iff (once : definitions.keys.Nodup)
    (h : (readAll scope definitions).result = .ok reading) {entry : String × Value}
    (hentry : entry ∈ definitions) :
    entry.1 ∈ reading.value.keys ↔ (alone scope entry).problems = [] := by
  rw [← Table.find?_isSome_iff, find?_of_readAll once h hentry]
  rcases isDecided_of_readAll h entry hentry with ⟨a, hvalue, hnone⟩ | ⟨hvalue, hsome⟩
  · simp [hvalue, hnone, Table.find?]
  · simp [hvalue, hsome, Table.find?]

/-- Behind the warnings each problem is logged once, as an error. -/
theorem log_readAll (h : (readAll scope definitions).result = .ok reading) :
    ∃ warnings, (∀ line ∈ warnings, line.severity = .warning) ∧
      (readAll scope definitions).log = warnings ++ reading.problems.map Problem.entry := by
  rw [readAll_eq_bind] at h ⊢
  obtain ⟨read, hread, h⟩ := Logged.exists_of_bind h
  obtain rfl := Except.ok.inj h
  refine ⟨_, fun line hline => ?_, Logged.bind_log_of_ok hread⟩
  obtain ⟨entry, -, hline⟩ := Logged.exists_of_mem_log_each hline
  rcases Logged.mem_log_bind hline with hline | ⟨outcome, hline⟩
  · exact severity_of_mem_log_read hline
  · cases hline

end Tables

/-- Definitions of attributes are read independently. The attributes and problems of a table with
keys of its own are those of its definitions alone, in order; a key is accepted if its definition has
no problem; each problem is logged once, as an error. Nothing is read only where the key of an
attribute, itself in order, is a pattern whose rounds cannot be counted. -/
theorem readAll_is_independent (scope : String) (definitions : Entries)
    (once : definitions.keys.Nodup) :
    ((∃ reading, (readAll scope definitions).result = .ok reading) ↔
      ∀ entry ∈ definitions, InOrder scope entry.1 entry.2 → ¬ Uncountable entry.1) ∧
    (∀ failure, (readAll scope definitions).result = .error failure → failure = .tooManyRounds) ∧
    ∀ reading, (readAll scope definitions).result = .ok reading →
      reading.value = definitions.flatMap (fun entry => (alone scope entry).value) ∧
      reading.problems = definitions.flatMap (fun entry => (alone scope entry).problems) ∧
      reading.value.keys.Sublist definitions.keys ∧
      (∀ entry ∈ definitions,
        (entry.1 ∈ reading.value.keys ↔ (alone scope entry).problems = []) ∧
        reading.value.find? entry.1 = (alone scope entry).value.find? entry.1) ∧
      ∃ warnings, (∀ line ∈ warnings, line.severity = .warning) ∧
        (readAll scope definitions).log = warnings ++ reading.problems.map Problem.entry := by
  refine ⟨exists_readAll_iff, fun failure h => ?_, fun reading h => ?_⟩
  · obtain ⟨-, -, -, hfailure⟩ := exists_of_readAll_eq_error h
    exact hfailure
  · obtain ⟨hvalue, hproblems⟩ := readAll_eq_flatMap once h
    exact ⟨hvalue, hproblems, keys_readAll_sublist once h,
      fun _ hentry => ⟨mem_keys_readAll_iff once h hentry, find?_of_readAll once h hentry⟩,
      log_readAll h⟩

/-- Definitions with a fault for each stage of reading, between two that are in order. -/
def crateAttributes : Entries :=
  [("name", .str "STRING"),
    ("weight", .int 5),
    ("state", .dict [(.name "type", .str "ENUM: ,"), (.name "conditions", .list [.int 1])]),
    ("^parts.([a-z]+)$", .str "STRING"),
    ("^size[0-9]{2,9}$", .dict [(.name "type", .str "ENUM:small,large"), (.name "wen", .str "")])]

theorem readAll_is_independent_crates :
    crateAttributes.keys.Nodup ∧
      ∃ reading, (readAll "crates" crateAttributes).result = .ok reading ∧
        reading.value.keys = ["name", "^size[0-9]{2,9}$"] ∧
        reading.problems =
          crateAttributes.flatMap (fun entry => (alone "crates" entry).problems) ∧
        ∃ warnings, (∀ line ∈ warnings, line.severity = .warning) ∧
          (readAll "crates" crateAttributes).log =
            warnings ++ reading.problems.map Problem.entry := by
  have once : crateAttributes.keys.Nodup := by decide
  have hkeys : (readAll "crates" crateAttributes).result.toOption.map
      (fun reading => reading.value.keys) = some ["name", "^size[0-9]{2,9}$"] := by
    decide +kernel
  obtain ⟨reading, hreading, hkeys⟩ := Option.map_eq_some_iff.mp hkeys
  have hresult := eq_ok_of_toOption_eq_some hreading
  obtain ⟨-, hproblems, -, -, hlog⟩ :=
    (readAll_is_independent "crates" crateAttributes once).2.2 reading hresult
  exact ⟨once, reading, hresult, hkeys, hproblems, hlog⟩

/-- A pattern whose rounds cannot be counted spoils the definitions beside it. -/
theorem not_forall_readAll_independent :
    ¬ ∀ (scope : String) (definitions : Entries), definitions.keys.Nodup →
      ∃ reading, (readAll scope definitions).result = .ok reading ∧
        reading.value = definitions.flatMap (fun entry => (alone scope entry).value) ∧
        reading.problems = definitions.flatMap (fun entry => (alone scope entry).problems) := by
  intro claim
  obtain ⟨reading, hreading, -⟩ := claim "attributes"
    [("^[a]{4294967295}$", .dict [(.name "type", .str "STRING")]), ("name", .str "STRING")]
    (by decide)
  have horder : InOrder "attributes" "^[a]{4294967295}$" (.dict [(.name "type", .str "STRING")]) :=
    ⟨_, rfl, by decide +kernel⟩
  refine exists_readAll_iff.mp ⟨reading, hreading⟩ _ List.mem_cons_self horder ⟨?_, ?_⟩
  · decide
  · decide +kernel

end Attribute
end NextWord
