import Mathlib.Data.List.Basic
import NextWord.Proofs.Environment.Overwriting

/-!
# The last writer of a place

What stands at the end of a chain of keys is what the last entry there wrote, unless a later entry
assigns to a prefix of the chain or below its end; supplied entries come after known ones and so win
over them. Entries whose chains are not prefixes of one another do not see each other: which of them
comes first decides the order of keys in the environment and nothing else.
-/

namespace NextWord.Environment

open NextWord.Path (split)

/-- The entries of a state that assign something, in the order in which they do. -/
def writers (known supplied : Entries) : List (String × Value) :=
  (known ++ supplied).filter fun entry => !(split entry.1).isEmpty

/-- Whether neither of two chains is a prefix of the other. -/
def Apart (chain keys : List Key) : Prop :=
  ¬ chain <+: keys ∧ ¬ keys <+: chain

theorem Apart.symm {chain keys : List Key} (h : Apart chain keys) : Apart keys chain :=
  ⟨h.2, h.1⟩

theorem Apart.ne_nil {chain keys : List Key} (h : Apart chain keys) : chain ≠ [] := by
  rintro rfl
  exact h.1 List.nil_prefix

/-- A key in front of both chains changes nothing. -/
theorem Apart.cons {key : Key} {chain keys : List Key} :
    Apart (key :: chain) (key :: keys) ↔ Apart chain keys := by
  simp only [Apart, List.prefix_cons_inj]

/-- Entries without keys change nothing. -/
theorem foldl_insert_writers (known supplied : Entries) :
    build known supplied = (writers known supplied).foldl insert [] := by
  rw [build, writers, List.foldl_filter]
  congr 1
  funext env entry
  split
  · rfl
  · next hnone =>
    have hkeys : split entry.1 = [] := by simpa using hnone
    rw [insert, hkeys, assign]

section LastWriter

theorem read?_foldl_insert_of_apart {chain : List Key} {entries : List (String × Value)}
    (h : ∀ entry ∈ entries, Apart chain (split entry.1)) (env : Environment) :
    read? chain (entries.foldl insert env) = read? chain env := by
  induction entries generalizing env with
  | nil => rfl
  | cons entry entries ih =>
    obtain ⟨hoff, hcover⟩ := h entry List.mem_cons_self
    rw [List.foldl_cons, ih (fun e he => h e (List.mem_cons_of_mem entry he)), insert,
      read?_assign_of_apart _ hoff hcover]

theorem read?_insert_self {entry : String × Value} (h : split entry.1 ≠ []) (env : Environment) :
    read? (split entry.1) (insert env entry) = some (decode entry.2) := by
  have hread := read?_assign_append (decode entry.2) h [] env
  rw [List.append_nil] at hread
  exact hread

/-- An entry that no later one interferes with is read back. -/
theorem read?_build_of_last {known supplied before after : Entries} {entry : String × Value}
    (hentries : known ++ supplied = before ++ entry :: after) (hkeys : split entry.1 ≠ [])
    (hafter : ∀ later ∈ after, Apart (split entry.1) (split later.1)) :
    read? (split entry.1) (build known supplied) = some (decode entry.2) := by
  rw [build, hentries, List.foldl_append, List.foldl_cons, read?_foldl_insert_of_apart hafter,
    read?_insert_self hkeys]

theorem read?_build_of_writers {known supplied : Entries} {before after : List (String × Value)}
    {entry : String × Value} (hwriters : writers known supplied = before ++ entry :: after)
    (hafter : ∀ later ∈ after, Apart (split entry.1) (split later.1)) :
    read? (split entry.1) (build known supplied) = some (decode entry.2) := by
  have hkeys : split entry.1 ≠ [] := by
    have hmem : entry ∈ writers known supplied := by rw [hwriters]; simp
    simpa using (List.mem_filter.mp hmem).2
  rw [foldl_insert_writers, hwriters, List.foldl_append, List.foldl_cons,
    read?_foldl_insert_of_apart hafter, read?_insert_self hkeys]

end LastWriter

section Order

/-- Equality but for the order of keys: the same value, or objects with the same keys and values
alike under them. -/
inductive Alike : Value → Value → Prop
  | refl (v : Value) : Alike v v
  | objects {es fs : List (Key × Value)} (keys : (Table.keys es).Perm (Table.keys fs))
      (values : ∀ key, Option.Rel Alike (Table.find? key es) (Table.find? key fs)) :
      Alike (.dict es) (.dict fs)

theorem alike_option_refl (old : Option Value) : Option.Rel Alike old old := by
  cases old with
  | none => exact .none
  | some v => exact .some (.refl v)

theorem Alike.keys_perm {env env' : Environment} (h : Alike (.dict env) (.dict env')) :
    (Table.keys env).Perm (Table.keys env') := by
  cases h with
  | refl => exact .refl _
  | objects keys _ => exact keys

theorem Alike.find? {env env' : Environment} (h : Alike (.dict env) (.dict env')) (key : Key) :
    Option.Rel Alike (env.find? key) (env'.find? key) := by
  cases h with
  | refl => exact alike_option_refl _
  | objects _ values => exact values key

theorem alike_objectOf {old old' : Option Value} (h : Option.Rel Alike old old') :
    Alike (.dict (objectOf old)) (.dict (objectOf old')) := by
  cases h with
  | none => exact .refl _
  | some hvalue =>
    cases hvalue with
    | refl => exact .refl _
    | objects keys values => exact .objects keys values

/-- Putting alike values under one key keeps tables alike. -/
theorem Alike.put {env env' : Environment} (h : Alike (.dict env) (.dict env')) (key : Key)
    {v w : Value} (hvalue : Alike v w) :
    Alike (.dict (env.put key v)) (.dict (env'.put key w)) := by
  refine .objects ?_ fun other => ?_
  · have hmem : key ∈ Table.keys env ↔ key ∈ Table.keys env' := h.keys_perm.mem_iff
    rw [Table.keys_put, Table.keys_put]
    by_cases hkey : key ∈ Table.keys env
    · rw [if_pos hkey, if_pos (hmem.mp hkey)]
      exact h.keys_perm
    · rw [if_neg hkey, if_neg (hmem.not.mp hkey)]
      exact h.keys_perm.append_right [key]
  · by_cases hother : other = key
    · subst hother
      rw [Table.find?_put_self, Table.find?_put_self]
      exact .some hvalue
    · rw [Table.find?_put_of_ne hother, Table.find?_put_of_ne hother]
      exact h.find? other

/-- Putting values under two different keys. -/
theorem alike_put_comm {first second : Key} (hne : first ≠ second) (v w : Value)
    (env : Environment) :
    Alike (.dict ((env.put first v).put second w)) (.dict ((env.put second w).put first v)) := by
  refine .objects ?_ fun key => ?_
  · simp only [Table.keys_put]
    by_cases hfirst : first ∈ Table.keys env <;> by_cases hsecond : second ∈ Table.keys env <;>
      simp [hfirst, hsecond, hne, Ne.symm hne]
    exact List.Perm.swap _ _ _ |>.append_left _
  · have hsame : ((env.put first v).put second w).find? key =
        ((env.put second w).put first v).find? key := by
      by_cases hkey : key = first
      · subst hkey
        rw [Table.find?_put_of_ne hne, Table.find?_put_self, Table.find?_put_self]
      · by_cases hkey' : key = second
        · subst hkey'
          rw [Table.find?_put_self, Table.find?_put_of_ne hkey, Table.find?_put_self]
        · simp only [Table.find?_put_of_ne hkey, Table.find?_put_of_ne hkey']
    rw [hsame]
    exact alike_option_refl _

theorem Alike.assign {env env' : Environment} (h : Alike (.dict env) (.dict env')) (value : Value)
    (keys : List Key) :
    Alike (.dict (assign value keys env)) (.dict (assign value keys env')) := by
  induction keys generalizing env env' with
  | nil => exact h
  | cons key keys ih =>
    rw [assign_cons, assign_cons]
    apply h.put
    cases keys with
    | nil => exact .refl value
    | cons next keys => exact ih (alike_objectOf (h.find? key))

/-- Assignments to chains apart from each other can be made in either order. -/
theorem alike_assign_comm (v w : Value) {chain keys : List Key} (h : Apart chain keys)
    (env : Environment) :
    Alike (.dict (assign w keys (assign v chain env)))
      (.dict (assign v chain (assign w keys env))) := by
  induction chain generalizing keys env with
  | nil => exact absurd rfl h.ne_nil
  | cons key chain ih =>
    obtain ⟨first, keys, rfl⟩ := List.exists_cons_of_ne_nil h.symm.ne_nil
    simp only [assign_cons]
    by_cases hkey : first = key
    · subst hkey
      have hrest := Apart.cons.mp h
      obtain ⟨c, chain, rfl⟩ := List.exists_cons_of_ne_nil hrest.ne_nil
      obtain ⟨d, keys, rfl⟩ := List.exists_cons_of_ne_nil hrest.symm.ne_nil
      simp only [Table.find?_put_self, Table.put_put]
      exact Alike.put (.refl _) first (ih hrest (objectOf (env.find? first)))
    · rw [Table.find?_put_of_ne hkey, Table.find?_put_of_ne (Ne.symm hkey)]
      exact alike_put_comm (Ne.symm hkey) _ _ env

theorem alike_foldl_insert {env env' : Environment} (h : Alike (.dict env) (.dict env'))
    (entries : List (String × Value)) :
    Alike (.dict (entries.foldl insert env)) (.dict (entries.foldl insert env')) := by
  induction entries generalizing env env' with
  | nil => exact h
  | cons entry entries ih => exact ih (h.assign (decode entry.2) (split entry.1))

theorem alike_build_of_swap {known supplied known' supplied' : Entries}
    {before after : List (String × Value)} {first second : String × Value}
    (hwriters : writers known supplied = before ++ first :: second :: after)
    (hswapped : writers known' supplied' = before ++ second :: first :: after)
    (h : Apart (split first.1) (split second.1)) :
    Alike (.dict (build known supplied)) (.dict (build known' supplied')) := by
  rw [foldl_insert_writers, foldl_insert_writers, hwriters, hswapped, List.foldl_append,
    List.foldl_append]
  exact alike_foldl_insert (alike_assign_comm (decode first.2) (decode second.2) h _) after

end Order

/-- Where no later entry interferes, a chain ends in what its entry wrote; and two entries in a row
that do not interfere with each other may change places. -/
theorem last_writer_wins (known supplied : Entries) :
    (∀ before entry after, writers known supplied = before ++ entry :: after →
      (∀ later ∈ after, Apart (split entry.1) (split later.1)) →
        read? (split entry.1) (build known supplied) = some (decode entry.2)) ∧
    (∀ known' supplied' before first second after,
      writers known supplied = before ++ first :: second :: after →
      writers known' supplied' = before ++ second :: first :: after →
      Apart (split first.1) (split second.1) →
        Alike (.dict (build known supplied)) (.dict (build known' supplied'))) :=
  ⟨fun _ _ _ hwriters hafter => read?_build_of_writers hwriters hafter,
    fun _ _ _ _ _ _ hwriters hswapped h => alike_build_of_swap hwriters hswapped h⟩

/-- A state whose first value is given again, behind an element of an array of the same name. -/
theorem last_writer_wins_box :
    read? [.name "box", .name "size"]
        (build [("box.size", .str "1"), ("box[0]", .str "x")]
          [("box.size", .str "2"), ("lid", .str "true")]) = some (.int 2) ∧
      Alike
        (.dict (build [("box.size", .str "1"), ("box[0]", .str "x")]
          [("box.size", .str "2"), ("lid", .str "true")]))
        (.dict (build [("box.size", .str "1")]
          [("box.size", .str "2"), ("box[0]", .str "x"), ("lid", .str "true")])) := by
  have hsize : split "box.size" = [.name "box", .name "size"] := by decide
  have hlater : ∀ later ∈ [("lid", Value.str "true")],
      Apart (split "box.size") (split later.1) := by
    simp only [List.forall_mem_singleton, Apart]
    decide
  have hapart : Apart (split "box[0]") (split "box.size") := by
    simp only [Apart]
    decide
  have h := last_writer_wins [("box.size", .str "1"), ("box[0]", .str "x")]
    [("box.size", .str "2"), ("lid", .str "true")]
  refine ⟨?_, h.2 [("box.size", .str "1")]
    [("box.size", .str "2"), ("box[0]", .str "x"), ("lid", .str "true")]
    [("box.size", .str "1")] ("box[0]", .str "x") ("box.size", .str "2") [("lid", .str "true")]
    rfl rfl hapart⟩
  have hread := h.1 [("box.size", .str "1"), ("box[0]", .str "x")] ("box.size", .str "2")
    [("lid", .str "true")] rfl hlater
  rw [hsize] at hread
  exact hread

end NextWord.Environment
