/-!
# Ordered tables

A table lists keys with their values in the order in which the keys were first put. Putting a key
again replaces its value in place. The view of a table is `find?`, what each key stands for; every
operation is described by one equation on that view.
-/

namespace NextWord

/-- Keys with their values, in order of first appearance. -/
abbrev Table (κ α : Type) := List (κ × α)

namespace Table

variable {κ α : Type} [DecidableEq κ]

def find? (key : κ) : Table κ α → Option α
  | [] => none
  | (k, a) :: rest => if k = key then some a else find? key rest

/-- Gives a key a value: in its place if the table has the key, at the end otherwise. -/
def put (key : κ) (value : α) : Table κ α → Table κ α
  | [] => [(key, value)]
  | (k, a) :: rest => if k = key then (k, value) :: rest else (k, a) :: put key value rest

def keys (table : Table κ α) : List κ :=
  table.map Prod.fst

def values (table : Table κ α) : List α :=
  table.map Prod.snd

def has (key : κ) (table : Table κ α) : Bool :=
  (table.find? key).isSome

/-- The table that a list of pairs builds, later values winning. -/
def ofPairs (pairs : List (κ × α)) : Table κ α :=
  pairs.foldl (fun table (k, a) => table.put k a) []

@[simp] theorem find?_put_self (key : κ) (value : α) (table : Table κ α) :
    (table.put key value).find? key = some value := by
  induction table with
  | nil => simp [put, find?]
  | cons entry rest ih =>
    by_cases h : entry.1 = key
    · simp [put, find?, h]
    · simp [put, find?, h, ih]

theorem find?_put_of_ne {key other : κ} (h : other ≠ key) (value : α) (table : Table κ α) :
    (table.put key value).find? other = table.find? other := by
  induction table with
  | nil => simp [put, find?, Ne.symm h]
  | cons entry rest ih =>
    by_cases hk : entry.1 = key
    · simp [put, find?, hk, Ne.symm h]
    · simp [put, find?, hk, ih]

theorem put_put (key : κ) (value other : α) (table : Table κ α) :
    (table.put key value).put key other = table.put key other := by
  induction table with
  | nil => simp [put]
  | cons entry rest ih =>
    by_cases h : entry.1 = key
    · simp [put, h]
    · simp [put, h, ih]

theorem find?_isSome_iff {key : κ} {table : Table κ α} :
    (table.find? key).isSome = true ↔ key ∈ table.keys := by
  induction table with
  | nil => simp [find?, keys]
  | cons entry rest ih =>
    by_cases h : entry.1 = key
    · simp [find?, keys, h]
    · simp only [find?, h, if_false, ih, keys, List.map_cons, List.mem_cons]
      simp [Ne.symm h]

theorem keys_put (key : κ) (value : α) (table : Table κ α) :
    (table.put key value).keys = if key ∈ table.keys then table.keys else table.keys ++ [key] := by
  induction table with
  | nil => simp [put, keys]
  | cons entry rest ih =>
    by_cases h : entry.1 = key
    · simp [put, keys, h]
    · have hk : (put key value (entry :: rest)).keys = entry.1 :: (put key value rest).keys := by
        simp [put, h, keys]
      rw [hk, ih]
      by_cases hm : key ∈ Table.keys rest
      · simp_all [keys]
      · simp_all [keys, Ne.symm h]

end Table
end NextWord
