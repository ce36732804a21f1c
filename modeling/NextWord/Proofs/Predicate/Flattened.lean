import NextWord.Predicate.Eval
import NextWord.Predicate.ForPath
import NextWord.Proofs.Environment.LastWriter
import NextWord.Proofs.Path.WrittenKeys
import NextWord.Proofs.Value.Places

/-!
# Flattened and nested state

An array or object can be given under its path as a whole, or taken apart into its scalars, each
under its own path. The environments differ: an array given whole is a list there, one taken apart
is an object with indices for keys. Optional access does not tell them apart. A chain of accesses
reads what stands at its place, and the places of two scalars are never above each other, so no
scalar is lost when they are put back one after the other.
-/

namespace NextWord

namespace Environment

open NextWord.Path (split)

/-- What a chain of keys reads is what stands at that place. -/
theorem at?_of_read? {keys : List Key} {env : Environment} {v : Value}
    (h : read? keys env = some v) : (Value.dict env).at? keys = some v := by
  induction keys generalizing env with
  | nil => exact h
  | cons key keys ih =>
    cases keys with
    | nil =>
      have hfind : (Value.dict env).step? key = some v := h
      rw [Value.at?, hfind]
      rfl
    | cons next keys =>
      rw [read?] at h
      · split at h
        · next inner hfind =>
          have hstep : (Value.dict env).step? key = some (.dict inner) := hfind
          rw [Value.at?, hstep]
          exact ih h
        · cases h
      · exact List.cons_ne_nil next keys

theorem Apart.append {chain keys : List Key} (h : Apart chain keys) (rest : List Key) :
    Apart (chain ++ rest) keys := by
  constructor
  · intro hprefix
    exact h.1 ((List.prefix_append chain rest).trans hprefix)
  · intro hprefix
    rcases List.prefix_or_prefix_of_prefix (List.prefix_append chain rest) hprefix with hon | hcover
    · exact h.1 hon
    · exact h.2 hcover

/-- Whether an entry leaves what it finds at the end of a chain, if that is the given value. -/
def Keeps (chain : List Key) (value : Value) (entry : String × Value) : Prop :=
  Apart chain (split entry.1) ∨ split entry.1 = chain ∧ decode entry.2 = value

theorem read?_foldl_insert_of_keeps {chain : List Key} {value : Value}
    {entries : List (String × Value)} (h : ∀ entry ∈ entries, Keeps chain value entry)
    (hchain : chain ≠ []) {env : Environment} (hread : read? chain env = some value) :
    read? chain (entries.foldl insert env) = some value := by
  induction entries generalizing env with
  | nil => exact hread
  | cons entry entries ih =>
    apply ih fun e he => h e (List.mem_cons_of_mem entry he)
    rcases h entry List.mem_cons_self with ⟨hoff, hcover⟩ | ⟨rfl, rfl⟩
    · rw [insert, read?_assign_of_apart _ hoff hcover, hread]
    · exact read?_insert_self hchain env

/-- What one entry writes stays if all the others keep it, in whatever order they come. -/
theorem read?_build_of_keeps (known before : Entries) {entries : Entries}
    {entry : String × Value} (hmem : entry ∈ entries) (hchain : split entry.1 ≠ [])
    (h : ∀ other ∈ entries, Keeps (split entry.1) (decode entry.2) other) :
    read? (split entry.1) (build known (before ++ entries)) = some (decode entry.2) := by
  obtain ⟨earlier, later, rfl⟩ := List.append_of_mem hmem
  rw [build, ← List.append_assoc, List.foldl_append, List.foldl_append, List.foldl_cons]
  apply read?_foldl_insert_of_keeps _ hchain (read?_insert_self hchain _)
  intro other hother
  exact h other (List.mem_append_right earlier (List.mem_cons_of_mem entry hother))

section Flattening

open NextWord.Path (WritesSteps WritesPath split_of_writesPath)

/-- Whether an entry gives a value at a place below a path, whose keys stand behind the path. -/
structure Gives (path : List Char) (place : List Key) (leaf : Value) (entry : String × Value) :
    Prop where
  keys : ∃ text, WritesSteps place text ∧ entry.1.toList = path ++ text
  value : decode entry.2 = leaf

/-- Whether entries are those of a value taken apart: its scalars, all of them and nothing else. -/
structure Flattens (path : List Char) (v : Value) (entries : Entries) : Prop where
  all : ∀ {place leaf}, v.HasScalar place leaf → ∃ entry ∈ entries, Gives path place leaf entry
  only : ∀ entry ∈ entries, ∃ place leaf, v.HasScalar place leaf ∧ Gives path place leaf entry

variable {path : String} {keys place : List Key} {v leaf : Value} {entry : String × Value}

theorem Gives.split (h : Gives path.toList place leaf entry) (hpath : WritesPath keys path.toList) :
    split entry.1 = keys ++ place := by
  obtain ⟨text, htext, hentry⟩ := h.keys
  apply split_of_writesPath
  rw [hentry]
  exact hpath.append htext

theorem apart_of_hasScalar {other : List Key} {value : Value} (h : v.HasScalar place leaf)
    (hother : v.HasScalar other value) (hne : place ≠ other) (keys : List Key) :
    Apart (keys ++ place) (keys ++ other) := by
  simp only [Apart, List.prefix_append_right_inj]
  constructor
  · intro hprefix
    exact hne (h.eq_of_prefix hother hprefix)
  · intro hprefix
    exact hne (hother.eq_of_prefix h hprefix).symm

theorem Flattens.keeps {entries : Entries} (h : Flattens path.toList v entries)
    (hpath : WritesPath keys path.toList) (hleaf : v.HasScalar place leaf) :
    ∀ entry ∈ entries, Keeps (keys ++ place) leaf entry := by
  intro entry hmem
  obtain ⟨other, value, hvalue, hgives⟩ := h.only entry hmem
  rw [Keeps, hgives.split hpath, hgives.value]
  by_cases hne : place = other
  · subst hne
    exact .inr ⟨rfl, hleaf.unique hvalue⟩
  · exact .inl (apart_of_hasScalar hleaf hvalue hne keys)

end Flattening

end Environment

namespace Eval

theorem element_natCast (items : List Value) (n : Nat) :
    element items n = items[n]?.getD .absent := by
  have hle : ¬ (n : Int) < 0 := by omega
  simp only [element, if_neg hle, Int.toNat_natCast]

/-- Optional access reads what stands under a key, if only nothing. -/
theorem access_ofKey (v : Value) (key : Key) :
    access v (.ofKey key) true = .ok ((v.step? key).getD .absent) := by
  cases v with
  | dict entries =>
    cases key with
    | index n =>
      have hkey : (Value.ofKey (.index n)).toKey? = some (.index n) := by
        simp [Value.ofKey, Value.toKey?]
      have hscalar : (Value.ofKey (.index n)).isHashable = true := rfl
      rw [access, if_pos hscalar, hkey]
      rfl
    | name text => rfl
  | list items =>
    cases key with
    | index n => exact congrArg Except.ok (element_natCast items n)
    | name text => rfl
  | _ => rfl

end Eval

namespace Expr

section Chains

/-- Whether an expression starts with a name and goes on with members and numbered indices, those
being the given keys. -/
inductive IsChain : List Key → Expr → Prop
  | name (text : String) : IsChain [.name text] (.name text)
  | member {keys : List Key} {target : Expr} (h : IsChain keys target) (field : String)
      (isOptional : Bool) : IsChain (keys ++ [.name field]) (.member target field isOptional)
  | index {keys : List Key} {target : Expr} (h : IsChain keys target) (n : Nat)
      (isOptional : Bool) :
      IsChain (keys ++ [.index n]) (.index target (.literal (.int n)) isOptional)

theorem access_getD (env : Environment) (keys : List Key) (key : Key) :
    Eval.access (((Value.dict env).at? keys).getD .absent) (.ofKey key) true =
      .ok (((Value.dict env).at? (keys ++ [key])).getD .absent) := by
  rw [Value.at?_append_singleton]
  cases (Value.dict env).at? keys with
  | none => rfl
  | some v => exact Eval.access_ofKey v key

/-- A chain reads what stands at its place. -/
theorem IsChain.eval_forPath {keys : List Key} {e : Expr} (h : IsChain keys e) (path : List Char)
    (env : Environment) :
    (e.forPath path).eval env = .ok (((Value.dict env).at? keys).getD .absent) := by
  induction h with
  | name text =>
    rw [forPath, eval, Value.at?, Value.step?]
    cases env.find? (.name text) <;> rfl
  | @member keys target _ field _ ih =>
    rw [forPath, eval, ih]
    exact access_getD env keys (.name field)
  | @index keys target _ n _ ih =>
    have hliteral : (literal (.int n)).isIndexName = false := rfl
    rw [forPath, if_neg (by rw [hliteral]; exact Bool.false_ne_true), forPath, eval, ih, eval]
    exact access_getD env keys (.index n)

end Chains

section Flattening

open NextWord.Path (split IsName WritesStep WritesPath split_of_writesPath)
open Environment (decode Apart Keeps Gives Flattens)

variable {path : String} {keys place : List Key} {v leaf : Value}

/-- A chain leading to a scalar reads it from an array or object that is given as a whole, and from
the same one taken apart. -/
theorem eval_forPath_of_flattens {entries : Entries} {e : Expr}
    (hpath : WritesPath keys path.toList) (hwhole : v.isHashable = false)
    (hentries : Flattens path.toList v entries) (hleaf : v.HasScalar place leaf)
    (hchain : e.IsChain (keys ++ place)) {after : Entries}
    (hafter : ∀ later ∈ after, Apart keys (split later.1)) (known before : Entries)
    (candidate : List Char) :
    (e.forPath candidate).eval (.build known (before ++ (path, v) :: after)) = .ok leaf ∧
      (e.forPath candidate).eval (.build known (before ++ (entries ++ after))) = .ok leaf := by
  have hdecode : decode v = v := by
    cases v with
    | str text => cases hwhole
    | _ => rfl
  have hsplit : split path = keys := split_of_writesPath hpath
  have hkeys : keys ≠ [] := by
    rintro rfl
    cases hpath
  constructor
  · have hassoc : known ++ (before ++ (path, v) :: after) =
        (known ++ before) ++ (path, v) :: after := (List.append_assoc known before _).symm
    have hread := Environment.read?_build_of_last hassoc (hsplit ▸ hkeys) (hsplit ▸ hafter)
    rw [hsplit, hdecode] at hread
    rw [hchain.eval_forPath, Value.at?_append, Environment.at?_of_read? hread, Option.bind_some,
      hleaf.at_place]
    rfl
  · obtain ⟨entry, hmem, hgives⟩ := hentries.all hleaf
    have hsplit' := hgives.split hpath
    -- The other scalars of the value are written beside this one, never above or below it.
    have hkeeps : ∀ other ∈ entries ++ after, Keeps (keys ++ place) leaf other := by
      intro other hother
      rcases List.mem_append.mp hother with hentry | hlater
      · exact hentries.keeps hpath hleaf other hentry
      · exact .inl ((hafter other hlater).append place)
    have hread := Environment.read?_build_of_keeps known before
      (List.mem_append_left after hmem) (by simp [hsplit', hkeys])
      (by rw [hsplit', hgives.value]; exact hkeeps)
    rw [hsplit', hgives.value] at hread
    rw [hchain.eval_forPath, Environment.at?_of_read? hread]
    rfl

/-- An item given as a whole, and by two entries. -/
theorem eval_forPath_of_flattens_tags :
    let v : Value := .dict [(.name "tags", .list [.str "5"]), (.name "width", .int 3)]
    let entries : Entries :=
      [("items[2].width", .str "3"), ("items[2].tags[00]", .str "\"5\"")]
    let known : Entries := [("items[2].tags", .str "none")]
    let after : Entries := [("items[3].tags", .str "some")]
    let item : Expr := .index (.name "items") (.literal (.int (2 : Nat))) false
    let e : Expr := .index (.member item "tags" false) (.literal (.int (0 : Nat))) false
    let keys : List Key := [.name "items", .index 2]
    let place : List Key := [.name "tags", .index 0]
    WritesPath keys "items[2]".toList ∧ v.isHashable = false ∧
      Flattens "items[2]".toList v entries ∧ v.HasScalar place (.str "5") ∧
      e.IsChain (keys ++ place) ∧ (∀ later ∈ after, Apart keys (split later.1)) ∧
      (e.forPath "items[2].sku".toList).eval (.build known ([] ++ ("items[2]", v) :: after)) =
        .ok (.str "5") ∧
      (e.forPath "items[2].sku".toList).eval (.build known ([] ++ (entries ++ after))) =
        .ok (.str "5") := by
  intro v entries known after item e keys place
  have hindex (digits : List Char) (hne : digits ≠ []) (hdigits : digits.all Text.isDigit = true) :=
    WritesStep.index hne (List.all_eq_true.mp hdigits)
  have hname (name : String) (h : IsName name.toList) := WritesStep.name h
  have hpath : WritesPath keys "items[2]".toList :=
    .start (by simp [IsName]) (.cons (hindex ['2'] (by decide) (by decide)) .nil)
  have hwidth : v.HasScalar [.name "width"] (.int 3) := ⟨rfl, rfl⟩
  have hleaf : v.HasScalar place (.str "5") := ⟨rfl, rfl⟩
  have hgives : Gives "items[2]".toList [.name "width"] (.int 3) ("items[2].width", .str "3") :=
    ⟨⟨_, .cons (hname "width" (by simp [IsName])) .nil, by decide⟩, rfl⟩
  have hgives' : Gives "items[2]".toList place (.str "5") ("items[2].tags[00]", .str "\"5\"") :=
    ⟨⟨_, .cons (hname "tags" (by simp [IsName]))
      (.cons (hindex ['0', '0'] (by decide) (by decide)) .nil), by decide⟩, rfl⟩
  have hentries : Flattens "items[2]".toList v entries := by
    constructor
    · intro place leaf h
      obtain ⟨key, rest, w, rfl, hkey, h⟩ := h.exists_cons rfl
      have hfind : Table.find? key [(.name "tags", .list [.str "5"]), (.name "width", .int 3)] =
        some w := hkey
      simp only [Table.find?] at hfind
      split at hfind
      · next htags =>
        subst htags
        cases hfind
        obtain ⟨key, rest, w, rfl, hkey, h⟩ := h.exists_cons rfl
        cases key with
        | name text => cases hkey
        | index n =>
          cases n with
          | zero =>
            cases hkey
            obtain ⟨rfl, rfl⟩ := h.eq_nil rfl
            exact ⟨_, List.mem_cons_of_mem _ List.mem_cons_self, hgives'⟩
          | succ n => cases hkey
      · split at hfind
        · next hwidth =>
          subst hwidth
          cases hfind
          obtain ⟨rfl, rfl⟩ := h.eq_nil rfl
          exact ⟨_, List.mem_cons_self, hgives⟩
        · cases hfind
    · intro entry hmem
      rcases List.mem_pair.mp hmem with rfl | rfl
      · exact ⟨_, _, hwidth, hgives⟩
      · exact ⟨_, _, hleaf, hgives'⟩
  have hchain : e.IsChain (keys ++ place) := .index (.member (.index (.name _) 2 _) _ _) 0 _
  have hafter : ∀ later ∈ after, Apart keys (split later.1) := by
    simp only [after, List.forall_mem_singleton, Apart]
    decide
  exact ⟨hpath, rfl, hentries, hleaf, hchain, hafter,
    eval_forPath_of_flattens hpath rfl hentries hleaf hchain hafter known [] _⟩

end Flattening

end Expr
end NextWord
