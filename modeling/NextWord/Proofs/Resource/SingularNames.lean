import Mathlib.Data.List.Induction
import NextWord.Proofs.Resource.WellKeyed
import NextWord.Resource.Registry

/-!
# What a singular name stands for

A registry is the outcome of the additions that made it. Under a plural name stands the last
resource added with it, and the singular name of a resource leads to the last one added with that.
Where both kinds of names coincide the plural one comes first, so a singular name need not lead to a
resource that bears it.

Nothing is said about a singular name whose last bearer was replaced by a resource with another one.
-/

namespace NextWord

theorem properName?_eq_some_iff {given : Option String} {name : String} :
    properName? given = some name ↔ given = some name ∧ name ≠ "" := by
  constructor
  · intro h
    unfold properName? at h
    split at h
    · cases h
    · next hproper =>
      refine ⟨h, ?_⟩
      rintro rfl
      exact hproper h
  · rintro ⟨rfl, hname⟩
    unfold properName?
    split
    · next hempty => exact absurd (Option.some.inj hempty) hname
    · rfl

namespace Registry

def ofAdditions (additions : List Resource) : Registry :=
  additions.foldl add empty

theorem ofAdditions_append_singleton (additions : List Resource) (r : Resource) :
    ofAdditions (additions ++ [r]) = (ofAdditions additions).add r := by
  rw [ofAdditions, List.foldl_append]
  rfl

/-- Under a plural name stands the last resource that was added with it. -/
theorem find?_resources (additions : List Resource) (name : String) :
    (ofAdditions additions).resources.find? name =
      additions.reverse.find? fun r => r.name = name := by
  have hfold : (ofAdditions additions).resources =
      additions.foldl (fun table r => Table.put r.name r table) [] :=
    (List.foldl_hom resources fun _ _ => rfl).symm
  rw [hfold, Table.find?_foldl_put]

/-- A singular name leads to the last resource that was added with it. -/
theorem find?_singular (additions : List Resource) (name : String) :
    (ofAdditions additions).singular.find? name =
      additions.reverse.find? fun r => properName? r.singularName = some name := by
  induction additions using List.reverseRecOn with
  | nil => rfl
  | append_singleton additions r ih =>
    rw [ofAdditions_append_singleton, List.reverse_concat, List.find?_cons, add]
    cases hproper : properName? r.singularName with
    | none => simpa using ih
    | some own =>
      by_cases h : own = name
      · subst h
        simp
      · have hother := Table.find?_put_of_ne (Ne.symm h) r (ofAdditions additions).singular
        simpa [h, ih] using hother

theorem mem_plural_of_find? {registry : Registry} {name : String} {r : Resource}
    (h : registry.resources.find? name = some r) : r ∈ registry.plural :=
  List.mem_map.mpr ⟨_, Table.mem_of_find?_eq_some h, rfl⟩

/-- A singular name leads to the listed resource whose plural name it is, if there is one.
Otherwise it leads to the resource last added with it, which is listed and bears the name, provided
no later one took its place. -/
theorem get?_of_mem_singularNames (additions : List Resource) :
    ∀ name ∈ (ofAdditions additions).singularNames,
      (name ∈ additions.map Resource.name →
        ∃ r ∈ (ofAdditions additions).plural,
          r.name = name ∧ (ofAdditions additions).get? name = some r) ∧
      (name ∉ additions.map Resource.name →
        ∃ before r after, additions = before ++ r :: after ∧ r.singularName = some name ∧
          (∀ other ∈ after, other.singularName ≠ some name) ∧
          ((∀ other ∈ after, other.name ≠ r.name) →
            (ofAdditions additions).get? name = some r ∧
              r ∈ (ofAdditions additions).plural)) := by
  intro name hname
  have hkey : (ofAdditions additions).singular.keys = (ofAdditions additions).singularNames := rfl
  rw [← hkey, ← Table.find?_isSome_iff, find?_singular] at hname
  obtain ⟨r, hr⟩ := Option.isSome_iff_exists.mp hname
  constructor
  · -- A plural name comes first in the lookup, whatever stands under it as a singular one.
    intro hplural
    obtain ⟨bearer, hbearer, rfl⟩ := List.mem_map.mp hplural
    have hfound : (additions.reverse.find? fun r => r.name = bearer.name).isSome := by
      rw [List.find?_isSome]
      exact ⟨bearer, List.mem_reverse.mpr hbearer, by simp⟩
    obtain ⟨found, hfound⟩ := Option.isSome_iff_exists.mp hfound
    have hsame : found.name = bearer.name := by simpa using List.find?_some hfound
    rw [← find?_resources] at hfound
    refine ⟨found, mem_plural_of_find? hfound, hsame, ?_⟩
    rw [get?, hfound, Option.orElse_some]
  · intro hnone
    obtain ⟨before, after, hsplit, hown, hlater⟩ := exists_last_of_find?_reverse hr
    obtain ⟨hsingular, hproper⟩ := properName?_eq_some_iff.mp (of_decide_eq_true hown)
    refine ⟨before, r, after, hsplit, hsingular, ?_, ?_⟩
    · intro other hother hsame
      have hagain : properName? other.singularName = some name :=
        properName?_eq_some_iff.mpr ⟨hsame, hproper⟩
      exact absurd hagain (of_decide_eq_false (hlater other hother))
    · intro hkept
      have hunnamed : (ofAdditions additions).resources.find? name = none := by
        rw [find?_resources, List.find?_eq_none]
        intro other hother
        have hmem : other.name ∈ additions.map Resource.name :=
          List.mem_map_of_mem (List.mem_reverse.mp hother)
        simpa using fun h : other.name = name => hnone (h ▸ hmem)
      have hlisted : (ofAdditions additions).resources.find? r.name = some r := by
        rw [find?_resources, hsplit, List.reverse_append, List.reverse_cons, List.append_assoc,
          List.find?_append, List.find?_eq_none.mpr]
        · simp
        · intro other hother
          simpa using hkept other (List.mem_reverse.mp hother)
      refine ⟨?_, mem_plural_of_find? hlisted⟩
      rw [get?, hunnamed, Option.orElse_none, find?_singular, hr]

/-- Two resources, one of which is replaced by one with the same singular name. -/
def shopAdditions : List Resource :=
  [{ name := "orders", singularName := some "order" },
    { name := "carts", singularName := some "cart" },
    { name := "orders", singularName := some "order", jsonApiType := some "order" }]

theorem get?_of_mem_singularNames_order :
    ∃ before r after, shopAdditions = before ++ r :: after ∧ r.singularName = some "order" ∧
      (∀ other ∈ after, other.singularName ≠ some "order") ∧
      ((∀ other ∈ after, other.name ≠ r.name) →
        (ofAdditions shopAdditions).get? "order" = some r ∧
          r ∈ (ofAdditions shopAdditions).plural) := by
  have hmem : "order" ∈ (ofAdditions shopAdditions).singularNames := by decide +kernel
  have hunnamed : "order" ∉ shopAdditions.map Resource.name := by decide +kernel
  exact (get?_of_mem_singularNames shopAdditions "order" hmem).2 hunnamed

/-- A singular name that is the plural name of another resource leads to that one. -/
theorem not_forall_get?_singular :
    ¬ ∀ additions : List Resource, ∀ name ∈ (ofAdditions additions).singularNames,
      ∃ r ∈ (ofAdditions additions).plural,
        (ofAdditions additions).get? name = some r ∧ r.singularName = some name := by
  intro claim
  let groups : Resource := { name := "groups", singularName := some "members" }
  let members : Resource := { name := "members", singularName := some "member" }
  have hmem : "members" ∈ (ofAdditions [groups, members]).singularNames := by decide +kernel
  have hget : (ofAdditions [groups, members]).get? "members" = some members := by
    rw [get?, find?_resources]
    rfl
  obtain ⟨r, -, hr, hsingular⟩ := claim [groups, members] "members" hmem
  obtain rfl : members = r := Option.some.inj (hget.symm.trans hr)
  exact absurd hsingular (by decide)

end Registry
end NextWord
