/-!
# Outcomes of readers

Readers answer with a value or with a fault. Whether two outcomes are equal is not decided as such,
since a fault may carry anything, but whether an outcome is a certain value is. Where a reader goes
on with what another one read, there is a value if both have one, and a fault if one of them has.
-/

namespace NextWord

theorem eq_ok_of_toOption_eq_some {ε α : Type} {e : Except ε α} {a : α}
    (h : e.toOption = some a) : e = .ok a := by
  cases e with
  | error fault => cases h
  | ok found => exact congrArg Except.ok (Option.some.inj h)

theorem exists_eq_ok_of_isSome_toOption {ε α : Type} {e : Except ε α}
    (h : e.toOption.isSome = true) : ∃ a, e = .ok a := by
  obtain ⟨a, ha⟩ := Option.isSome_iff_exists.mp h
  exact ⟨a, eq_ok_of_toOption_eq_some ha⟩

theorem exists_of_except_bind {ε α β : Type} {x : Except ε α} {f : α → Except ε β} {b : β}
    (h : x >>= f = .ok b) : ∃ a, x = .ok a ∧ f a = .ok b := by
  cases x with
  | ok a => exact ⟨a, rfl, h⟩
  | error fault => cases h

theorem of_except_bind_eq_error {ε α β : Type} {x : Except ε α} {f : α → Except ε β} {fault : ε}
    (h : x >>= f = .error fault) : x = .error fault ∨ ∃ a, x = .ok a ∧ f a = .error fault := by
  cases x with
  | ok a => exact .inr ⟨a, rfl, h⟩
  | error other => exact .inl (congrArg Except.error (Except.error.inj h))

/-- A reader that puts something in front of what another one took. -/
theorem exists_of_map_append {α β : Type} {read : Option (List α × β)} (front : List α)
    {taken : List α} {left : β}
    (h : (read.map fun (others, left) => (front ++ others, left)) = some (taken, left)) :
    ∃ others, read = some (others, left) ∧ taken = front ++ others := by
  obtain ⟨⟨others, behind⟩, hothers, heq⟩ := Option.map_eq_some_iff.mp h
  obtain ⟨rfl, rfl⟩ := Prod.mk.inj heq
  exact ⟨others, hothers, rfl⟩

end NextWord
