import Mathlib.Data.List.Forall2
import Mathlib.Data.List.Induction
import Mathlib.Data.List.Nodup
import NextWord.Table
import NextWord.Text.Pieces

/-!
# Entries of ordered tables

Where every key stands once, an entry of a table and what its key stands for are the same thing. A
table that values were put into one after the other, each under a key of its own making, keeps for
every key the last of them, in the order in which the keys came first.
-/

namespace NextWord

namespace Table

variable {κ α : Type} [DecidableEq κ]

theorem mem_of_find?_eq_some {key : κ} {value : α} {table : Table κ α}
    (h : table.find? key = some value) : (key, value) ∈ table := by
  induction table with
  | nil => cases h
  | cons entry rest ih =>
    rw [find?] at h
    split at h
    · next hkey =>
      obtain rfl := Option.some.inj h
      simp [← hkey]
    · exact List.mem_cons_of_mem _ (ih h)

theorem find?_of_mem {key : κ} {value : α} {table : Table κ α} (once : table.keys.Nodup)
    (h : (key, value) ∈ table) : table.find? key = some value := by
  induction table with
  | nil => cases h
  | cons entry rest ih =>
    obtain ⟨hfirst, hrest⟩ := List.nodup_cons.mp once
    rw [find?]
    rcases List.mem_cons.mp h with rfl | h
    · simp
    · have hkey : key ∈ keys rest := List.mem_map.mpr ⟨_, h, rfl⟩
      rw [if_neg (by rintro rfl; exact hfirst hkey), ih hrest h]

theorem nodup_keys_put {table : Table κ α} (once : table.keys.Nodup) (key : κ) (value : α) :
    (table.put key value).keys.Nodup := by
  rw [keys_put]
  split
  · exact once
  · next h => exact List.nodup_append.mpr ⟨once, by simp, by rintro a ha b hb rfl; simp_all⟩

theorem mem_put {key : κ} {value : α} {table : Table κ α} {entry : κ × α}
    (h : entry ∈ table.put key value) : entry = (key, value) ∨ entry ∈ table := by
  induction table with
  | nil => exact .inl (List.mem_singleton.mp h)
  | cons first rest ih =>
    rw [put] at h
    split at h
    · next hkey =>
      rcases List.mem_cons.mp h with rfl | h
      · exact .inl (by rw [hkey])
      · exact .inr (List.mem_cons_of_mem _ h)
    · rcases List.mem_cons.mp h with rfl | h
      · exact .inr List.mem_cons_self
      · exact (ih h).imp_right (List.mem_cons_of_mem _)

theorem find?_map {β : Type} (f : α → β) (table : Table κ α) (key : κ) :
    find? key (table.map fun entry => (entry.1, f entry.2)) = (table.find? key).map f := by
  induction table with
  | nil => rfl
  | cons entry rest ih =>
    by_cases h : entry.1 = key
    · simp [find?, h]
    · simpa [find?, h] using ih

theorem put_of_not_mem {key : κ} {table : Table κ α} (h : key ∉ table.keys) (value : α) :
    table.put key value = table ++ [(key, value)] := by
  induction table with
  | nil => rfl
  | cons entry rest ih =>
    obtain ⟨hfirst, hrest⟩ := List.ne_and_not_mem_of_not_mem_cons h
    rw [put, if_neg (Ne.symm hfirst), ih hrest, List.cons_append]

/-- Pairs with keys of their own are a table as they stand. -/
theorem ofPairs_eq_self {pairs : Table κ α} (once : pairs.keys.Nodup) : ofPairs pairs = pairs := by
  have hadded (table : Table κ α) (hboth : (keys (table ++ pairs)).Nodup) :
      pairs.foldl (fun table pair => table.put pair.1 pair.2) table = table ++ pairs := by
    clear once
    induction pairs generalizing table with
    | nil => exact (List.append_nil table).symm
    | cons pair pairs ih =>
      have hnew : pair.1 ∉ keys table := by
        rw [keys, List.map_append, List.nodup_append] at hboth
        exact fun h => hboth.2.2 _ h _ List.mem_cons_self rfl
      have hassoc : table ++ [pair] ++ pairs = table ++ pair :: pairs := by simp
      rw [List.foldl_cons, put_of_not_mem hnew, ← hassoc]
      refine ih _ ?_
      rwa [hassoc]
  exact hadded [] once

theorem mem_of_mem_ofPairs {pairs : List (κ × α)} {entry : κ × α}
    (h : entry ∈ ofPairs pairs) : entry ∈ pairs := by
  have hadded (table : Table κ α)
      (hfold : entry ∈ pairs.foldl (fun table pair => table.put pair.1 pair.2) table) :
      entry ∈ table ∨ entry ∈ pairs := by
    clear h
    induction pairs generalizing table with
    | nil => exact .inl hfold
    | cons pair pairs ih =>
      rcases ih _ hfold with hput | hpairs
      · rcases mem_put hput with rfl | htable
        · exact .inr List.mem_cons_self
        · exact .inl htable
      · exact .inr (List.mem_cons_of_mem pair hpairs)
  exact (hadded [] h).resolve_left List.not_mem_nil

theorem forall₂_find? {table : Table κ α} (once : table.keys.Nodup) :
    List.Forall₂ (fun key value => table.find? key = some value) table.keys table.values := by
  rw [keys, values, List.forall₂_map_left_iff, List.forall₂_map_right_iff, List.forall₂_same]
  exact fun _ hentry => find?_of_mem once hentry

section Collected

variable (key : α → κ) (items : List α)

/-- Of the values put under one key the last is found. -/
theorem find?_foldl_put (k : κ) :
    find? k (items.foldl (fun table a => put (key a) a table) []) =
      items.reverse.find? fun a => key a = k := by
  -- From the end of the list: the last value either stands under the key or leaves it alone.
  induction items using List.reverseRecOn with
  | nil => rfl
  | append_singleton items a ih =>
    rw [List.foldl_append, List.foldl_cons, List.foldl_nil, List.reverse_concat, List.find?_cons]
    by_cases h : key a = k
    · simp [h]
    · simp [h, find?_put_of_ne (Ne.symm h), ih]

/-- The keys stand in the order in which each of them came first. -/
theorem keys_foldl_put :
    keys (items.foldl (fun table a => put (key a) a table) []) =
      (items.map key).eraseDups := by
  induction items using List.reverseRecOn with
  | nil => rfl
  | append_singleton items a ih =>
    rw [List.foldl_append, List.foldl_cons, List.foldl_nil, keys_put, ih, List.map_append,
      List.map_singleton, Text.eraseDups_concat]
    simp only [List.mem_eraseDups]

end Collected

end Table

/-- The last element of a list that something holds of, if there is one. -/
theorem exists_last_of_find?_reverse {α : Type} {p : α → Bool} {items : List α} {a : α}
    (h : items.reverse.find? p = some a) :
    ∃ before after, items = before ++ a :: after ∧ p a = true ∧ ∀ b ∈ after, p b = false := by
  obtain ⟨ha, later, earlier, hsplit, hlater⟩ := List.find?_eq_some_iff_append.mp h
  refine ⟨earlier.reverse, later.reverse, ?_, ha, ?_⟩
  · rw [← List.reverse_reverse items, hsplit]
    simp
  · intro b hb
    simpa using hlater b (List.mem_reverse.mp hb)

end NextWord
