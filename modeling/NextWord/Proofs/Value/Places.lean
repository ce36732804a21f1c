import NextWord.Value.Equality

/-!
# Places in a value

A chain of keys leads to a place in a value: an index to an element of a list, a key to an entry of
an object. Elements that were rebuilt under their indices are entries like others. Nothing lies
below a scalar, so of two places that hold scalars neither is above the other.
-/

namespace NextWord.Value

def step? : Value → Key → Option Value
  | .list items, .index n => items[n]?
  | .dict entries, key => Table.find? key entries
  | _, _ => none

def at? : Value → List Key → Option Value
  | v, [] => some v
  | v, key :: place => (v.step? key).bind fun w => at? w place

theorem at?_append (v : Value) (place below : List Key) :
    v.at? (place ++ below) = (v.at? place).bind fun w => w.at? below := by
  induction place generalizing v with
  | nil => rfl
  | cons key place ih =>
    rw [List.cons_append, at?, at?, Option.bind_assoc]
    exact Option.bind_congr fun w _ => ih w

theorem at?_append_singleton (v : Value) (place : List Key) (key : Key) :
    v.at? (place ++ [key]) = (v.at? place).bind fun w => w.step? key := by
  have hlast (w : Value) : w.at? [key] = w.step? key := by
    rw [at?]
    cases w.step? key <;> rfl
  rw [at?_append]
  simp only [hlast]

/-- No key leads into a scalar. -/
theorem step?_of_isHashable {v : Value} (h : v.isHashable = true) (key : Key) :
    v.step? key = none := by
  cases v with
  | list items => cases h
  | dict entries => cases h
  | _ => rfl

structure HasScalar (v : Value) (place : List Key) (leaf : Value) : Prop where
  at_place : v.at? place = some leaf
  scalar : leaf.isHashable = true

theorem HasScalar.unique {v leaf other : Value} {place : List Key} (h : v.HasScalar place leaf)
    (hother : v.HasScalar place other) : other = leaf :=
  Option.some.inj (hother.at_place.symm.trans h.at_place)

theorem HasScalar.eq_nil {v leaf : Value} {place : List Key} (h : v.HasScalar place leaf)
    (hscalar : v.isHashable = true) : place = [] ∧ v = leaf := by
  cases place with
  | nil => exact ⟨rfl, Option.some.inj h.at_place⟩
  | cons key place =>
    obtain ⟨w, hkey, -⟩ := Option.bind_eq_some_iff.mp h.at_place
    rw [step?_of_isHashable hscalar] at hkey
    cases hkey

/-- The scalars of a container are those of what stands under its keys. -/
theorem HasScalar.exists_cons {v leaf : Value} {place : List Key} (h : v.HasScalar place leaf)
    (hcontainer : v.isHashable = false) :
    ∃ key rest w, place = key :: rest ∧ v.step? key = some w ∧ w.HasScalar rest leaf := by
  cases place with
  | nil =>
    obtain rfl : v = leaf := Option.some.inj h.at_place
    exact absurd (h.scalar.symm.trans hcontainer) (by decide)
  | cons key rest =>
    obtain ⟨w, hkey, hrest⟩ := Option.bind_eq_some_iff.mp h.at_place
    exact ⟨key, rest, w, rfl, hkey, hrest, h.scalar⟩

/-- Nothing stands below a scalar. -/
theorem HasScalar.eq_of_prefix {v leaf other : Value} {place below : List Key}
    (h : v.HasScalar place leaf) (hbelow : v.HasScalar below other) (habove : place <+: below) :
    place = below := by
  obtain ⟨rest, rfl⟩ := habove
  have hrest : leaf.at? rest = some other := by
    have hat := hbelow.at_place
    rwa [at?_append, h.at_place, Option.bind_some] at hat
  obtain ⟨hnil, -⟩ := HasScalar.eq_nil ⟨hrest, hbelow.scalar⟩ h.scalar
  rw [hnil, List.append_nil]

end NextWord.Value
