import NextWord.Value.Equality

/-!
# When two values are the same

Scalars are told apart by their contents: numbers and booleans by their exact size, other scalars by
what they are. A computed NaN has no content, for it is not even the same as itself. So scalars that
are the same as a third one are the same as each other, whichever kinds of numbers they are.
-/

namespace NextWord

namespace Number

/-- What is compared of a number: its size in units of the least double, the sign of an infinity, or
that it is the NaN of a constant. -/
inductive Size
  | finite (units : Int)
  | infinite (negative : Bool)
  | writtenNaN
  deriving DecidableEq

/-- The size of a number; a computed NaN has none. -/
def size? : Number → Option Size
  | .int i => some (.finite (i * Binary64.unitsPerOne))
  | .float (.finite negative units) => some (.finite (Binary64.signed negative units))
  | .float (.infinite negative) => some (.infinite negative)
  | .float (.nan true) => some .writtenNaN
  | .float (.nan false) => none

theorem mul_unitsPerOne_inj {i j : Int} :
    i * (Binary64.unitsPerOne : Int) = j * Binary64.unitsPerOne ↔ i = j := by
  have hunits : (Binary64.unitsPerOne : Int) ≠ 0 :=
    Int.ofNat_ne_zero.mpr (by decide +kernel)
  exact ⟨Int.eq_of_mul_eq_mul_right hunits, fun h => by rw [h]⟩

theorem same_iff {m n : Number} : m.same n = true ↔ m.size? ≠ none ∧ m.size? = n.size? := by
  have hcompare (i j : Int) : compare i j = .eq ↔ i = j := Std.compare_eq_iff_eq
  have hcompareInt (i j : Int) : (compare i j).swap = .eq ↔ j = i := by
    rw [← Std.OrientedCmp.eq_swap, hcompare]
  have hside (s : Bool) : (if s then Ordering.lt else .gt) ≠ .eq := by cases s <;> decide
  have hside' (s : Bool) : (if s then Ordering.gt else .lt) ≠ .eq := by cases s <;> decide
  have hswap (s : Bool) : (if s then Ordering.lt else .gt).swap ≠ .eq := by cases s <;> decide
  have hsign (s t : Bool) : (if s = t then Ordering.eq else if s then .lt else .gt) = .eq ↔
      s = t := by
    cases s <;> cases t <;> decide
  rcases m with i | (⟨s, a⟩ | s | ⟨_ | _⟩) <;> rcases n with j | (⟨t, b⟩ | t | ⟨_ | _⟩) <;>
    simp only [same, equal, compare?, Binary64.compareInt?, Binary64.compare?, size?, hcompare,
      hcompareInt, hside, hside', hswap, hsign, mul_unitsPerOne_inj, beq_iff_eq, Option.map_some,
      Option.map_none, Option.some.injEq, Size.finite.injEq, Size.infinite.injEq, ne_eq,
      reduceCtorEq, not_false_eq_true, not_true_eq_false, true_and, false_and, and_false]

end Number

namespace Value

inductive Content
  | absent
  | null
  | number (size : Number.Size)
  | text (text : String)
  | moment (kind : MomentKind) (text : String)
  deriving DecidableEq

/-- The content of a scalar, booleans being numbers. -/
def content? : Value → Option Content
  | .absent => some .absent
  | .null => some .null
  | .str text => some (.text text)
  | .moment kind text => some (.moment kind text)
  | v => (v.toNumber?.bind Number.size?).map .number

theorem same_eq_sameScalar {v w : Value} (h : v.isHashable = true) :
    v.same w = v.sameScalar w := by
  cases v <;> first | rfl | cases h

theorem sameScalar_iff {v w : Value} :
    v.sameScalar w = true ↔ v.content? ≠ none ∧ v.content? = w.content? := by
  have hnumbers (a b : Option Number.Size) : a.map Content.number = b.map .number ↔ a = b := by
    cases a <;> cases b <;> simp
  have hother (c : Content) (a : Option Number.Size) :
      some c = a.map .number ↔ ∃ size, a = some size ∧ .number size = c := by
    cases a <;> simp [eq_comm]
  cases v <;> cases w <;>
    simp [sameScalar, content?, toNumber?, Number.same_iff, hnumbers, hother]

/-- Scalars that are the same as a third one are the same as each other. -/
theorem same_trans {u v w : Value} (hu : u.isHashable = true) (hv : v.isHashable = true)
    (h : u.same v = true) (h' : v.same w = true) : u.same w = true := by
  rw [same_eq_sameScalar hu, sameScalar_iff] at h ⊢
  rw [same_eq_sameScalar hv, sameScalar_iff] at h'
  exact ⟨h.1, h.2.trans h'.2⟩

end Value
end NextWord
