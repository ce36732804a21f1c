import Mathlib.Data.List.Basic
import NextWord.Predicate.Environment

/-!
# What later entries overwrite

An environment is observed by reading chains of keys. One assignment changes what a chain reads in
one case only: when the chain is a prefix of the keys assigned. The exception is an assignment to a
proper prefix of the chain, which replaces everything below it. So what a built environment has at
the end of a chain is a fold over the entries, and entries off the chain drop out of it.
-/

namespace NextWord.Environment

open NextWord.Path (split)

def objectOf : Option Value → Environment
  | some (.dict entries) => entries
  | _ => []

/-- What an assignment leaves where it has the given keys still to go, `old` being what was
there. -/
def stored (value : Value) : List Key → Option Value → Value
  | [], _ => value
  | key :: keys, old => .dict (assign value (key :: keys) (objectOf old))

theorem objectOf_of_ne_dict {old : Option Value} (h : ∀ entries, old ≠ some (.dict entries)) :
    objectOf old = [] := by
  rcases old with _ | v
  · rfl
  · cases v with
    | dict entries => exact absurd rfl (h entries)
    | _ => rfl

theorem assign_cons (value : Value) (key : Key) (keys : List Key) (env : Environment) :
    assign value (key :: keys) env = env.put key (stored value keys (env.find? key)) := by
  cases keys with
  | nil => rfl
  | cons next keys =>
    by_cases h : ∃ entries, env.find? key = some (.dict entries)
    · obtain ⟨entries, h⟩ := h
      simp [assign, stored, objectOf, h]
    · have hnone := objectOf_of_ne_dict (fun entries he => h ⟨entries, he⟩)
      simp only [assign, stored, hnone]
      split
      · next entries he => exact absurd ⟨entries, he⟩ h
      · rfl

theorem read?_empty (key : Key) (keys : List Key) : read? (key :: keys) [] = none := by
  cases keys <;> rfl

theorem read?_cons_cons (key next : Key) (keys : List Key) (env : Environment) :
    read? (key :: next :: keys) env = read? (next :: keys) (objectOf (env.find? key)) := by
  by_cases h : ∃ entries, env.find? key = some (.dict entries)
  · obtain ⟨entries, h⟩ := h
    simp [read?, objectOf, h]
  · rw [objectOf_of_ne_dict (fun entries he => h ⟨entries, he⟩), read?_empty, read?.eq_def]
    split
    · next he => simp at he
    · next he => simp at he
    · next he =>
      obtain ⟨rfl, rfl⟩ := List.cons.inj he
      split
      · next entries he => exact absurd ⟨entries, he⟩ h
      · rfl

/-- An assignment below the end of a chain, or at it, is seen there. -/
theorem read?_assign_append (value : Value) {chain : List Key} (hchain : chain ≠ [])
    (rest : List Key) (env : Environment) :
    read? chain (assign value (chain ++ rest) env) =
      some (stored value rest (read? chain env)) := by
  induction chain generalizing env with
  | nil => exact absurd rfl hchain
  | cons key chain ih =>
    rw [List.cons_append, assign_cons]
    cases chain with
    | nil => exact Table.find?_put_self key _ env
    | cons next chain =>
      have hinner := ih (List.cons_ne_nil next chain) (objectOf (env.find? key))
      rw [read?_cons_cons, read?_cons_cons, Table.find?_put_self]
      exact hinner

/-- An assignment off a chain is not seen at its end. -/
theorem read?_assign_of_apart (value : Value) {chain keys : List Key} (hoff : ¬ chain <+: keys)
    (hcover : ¬ keys <+: chain) (env : Environment) :
    read? chain (assign value keys env) = read? chain env := by
  induction chain generalizing keys env with
  | nil => exact absurd (List.nil_prefix) hoff
  | cons key chain ih =>
    rcases keys with _ | ⟨first, keys⟩
    · exact absurd (List.nil_prefix) hcover
    rw [assign_cons]
    by_cases hfirst : first = key
    · subst hfirst
      have hoff' : ¬ chain <+: keys := fun h => hoff ((List.prefix_cons_inj first).mpr h)
      have hcover' : ¬ keys <+: chain := fun h => hcover ((List.prefix_cons_inj first).mpr h)
      rcases chain with _ | ⟨next, chain⟩
      · exact absurd (List.nil_prefix) hoff'
      rcases keys with _ | ⟨second, keys⟩
      · exact absurd (List.nil_prefix) hcover'
      rw [read?_cons_cons, read?_cons_cons, Table.find?_put_self]
      exact ih hoff' hcover' (objectOf (env.find? first))
    · have hput := Table.find?_put_of_ne (Ne.symm hfirst) (stored value keys (env.find? first)) env
      cases chain with
      | nil => exact hput
      | cons next chain => rw [read?_cons_cons, read?_cons_cons, hput]

/-- What an entry makes of what stands at the end of a chain. -/
def overwrite (chain : List Key) (old : Option Value) (entry : String × Value) : Option Value :=
  if chain <+: split entry.1 then
    some (stored (decode entry.2) ((split entry.1).drop chain.length) old)
  else old

/-- Whether an entry may come while a chain is watched: it does not replace an object that the
chain runs through. -/
def Spares (chain : List Key) (entry : String × Value) : Prop :=
  split entry.1 <+: chain → split entry.1 = [] ∨ split entry.1 = chain

theorem read?_insert {chain : List Key} (hchain : chain ≠ []) {entry : String × Value}
    (hspares : Spares chain entry) (env : Environment) :
    read? chain (insert env entry) = overwrite chain (read? chain env) entry := by
  rw [insert, overwrite]
  by_cases hon : chain <+: split entry.1
  · obtain ⟨rest, hrest⟩ := hon
    rw [if_pos ⟨rest, hrest⟩, ← hrest, read?_assign_append _ hchain, List.drop_left]
  · rw [if_neg hon]
    -- An entry at a proper prefix would cut the chain; one without keys is not stored at all.
    by_cases hcover : split entry.1 <+: chain
    · rcases hspares hcover with hnone | hsame
      · rw [hnone, assign]
      · exact absurd (hsame ▸ List.prefix_refl chain) hon
    · exact read?_assign_of_apart _ hon hcover env

theorem read?_foldl_insert {chain : List Key} (hchain : chain ≠ [])
    {entries : List (String × Value)} (hspare : ∀ entry ∈ entries, Spares chain entry)
    (env : Environment) :
    read? chain (entries.foldl insert env) = entries.foldl (overwrite chain) (read? chain env) := by
  induction entries generalizing env with
  | nil => rfl
  | cons entry entries ih =>
    rw [List.foldl_cons, List.foldl_cons,
      ih (fun e he => hspare e (List.mem_cons_of_mem entry he)),
      read?_insert hchain (hspare entry List.mem_cons_self)]

/-- Entries off a chain drop out of what stands at its end. -/
theorem foldl_overwrite_filter {chain : List Key} {keep : String × Value → Bool}
    (hkeep : ∀ entry, chain <+: split entry.1 → keep entry = true)
    (entries : List (String × Value)) (old : Option Value) :
    (entries.filter keep).foldl (overwrite chain) old = entries.foldl (overwrite chain) old := by
  rw [List.foldl_filter]
  congr 1
  funext old entry
  by_cases hon : chain <+: split entry.1
  · rw [if_pos (hkeep entry hon)]
  · simp [overwrite, hon]

/-- Two states agree at the end of a chain as soon as they agree on the entries along it. -/
theorem read?_build_congr {chain : List Key} (hchain : chain ≠ [])
    {keep : String × Value → Bool} (hkeep : ∀ entry, chain <+: split entry.1 → keep entry = true)
    {known supplied known' supplied' : Entries}
    (hspare : ∀ entry ∈ known ++ supplied, Spares chain entry)
    (hspare' : ∀ entry ∈ known' ++ supplied', Spares chain entry)
    (hsame : (known ++ supplied).filter keep = (known' ++ supplied').filter keep) :
    read? chain (build known supplied) = read? chain (build known' supplied') := by
  rw [build, build, read?_foldl_insert hchain hspare, read?_foldl_insert hchain hspare',
    ← foldl_overwrite_filter hkeep, hsame, foldl_overwrite_filter hkeep]

theorem spares_singleton (key : Key) (entry : String × Value) : Spares [key] entry := by
  intro h
  rcases List.prefix_cons_iff.mp h with hnil | ⟨rest, hrest, hprefix⟩
  · exact Or.inl hnil
  · rw [List.prefix_nil.mp hprefix] at hrest
    exact Or.inr hrest

def ObjectIfAny (old : Option Value) : Prop :=
  ∀ v, old = some v → ∃ entries, v = .dict entries

theorem overwrite_objectIfAny {chain : List Key} {old : Option Value} {entry : String × Value}
    (hbelow : split entry.1 ≠ chain) (hold : ObjectIfAny old) :
    ObjectIfAny (overwrite chain old entry) := by
  rw [overwrite]
  split
  · next hon =>
    obtain ⟨rest, hrest⟩ := hon
    intro v hv
    rw [← hrest, List.drop_left] at hv
    cases rest with
    | nil => exact absurd (by simpa using hrest.symm) hbelow
    | cons key rest => exact ⟨_, (Option.some.inj hv).symm⟩
  · exact hold

/-- Where no entry ends, there is an object or nothing. -/
theorem foldl_overwrite_objectIfAny {chain : List Key} {entries : List (String × Value)}
    (hbelow : ∀ entry ∈ entries, split entry.1 ≠ chain) {old : Option Value}
    (hold : ObjectIfAny old) : ObjectIfAny (entries.foldl (overwrite chain) old) := by
  induction entries generalizing old with
  | nil => exact hold
  | cons entry entries ih =>
    rw [List.foldl_cons]
    exact ih (fun e he => hbelow e (List.mem_cons_of_mem entry he))
      (overwrite_objectIfAny (hbelow entry List.mem_cons_self) hold)

theorem find?_build_objectIfAny {key : Key} {known supplied : Entries}
    (hbelow : ∀ entry ∈ known ++ supplied, split entry.1 ≠ [key]) :
    ObjectIfAny ((build known supplied).find? key) := by
  have hread : (build known supplied).find? key = read? [key] (build known supplied) := rfl
  rw [hread, build, read?_foldl_insert (List.cons_ne_nil key [])
    (fun entry _ => spares_singleton key entry)]
  apply foldl_overwrite_objectIfAny hbelow
  intro v hv
  cases hv

end NextWord.Environment
