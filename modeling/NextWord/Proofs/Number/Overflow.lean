import Mathlib.Algebra.Order.Ring.Nat
import NextWord.Number.Binary64

/-!
# Integers too large for a double

Rounding to 53 significant bits passes a power of two exactly from half a step below it, the last
step below a power of two being odd. So the integers that no finite double is nearest to are those
from 2^1024 - 2^970 on.
-/

namespace NextWord.Binary64

/-- The size from which on integers have no finite double. -/
def integerLimit : Nat := Nat.pow 2 1024 - Nat.pow 2 970

/-- A power of two split where its exponent is a sum. -/
theorem two_pow_split {k a b : Nat} (h : k = a + b) : 2 ^ k = 2 ^ a * 2 ^ b := by
  rw [h, Nat.pow_add]

theorem bitLength_le_iff {n k : Nat} : bitLength n ≤ k ↔ n < 2 ^ k := by
  rw [bitLength]
  split
  · next h => exact ⟨fun _ => h ▸ Nat.two_pow_pos k, fun _ => Nat.zero_le k⟩
  · next h => rw [Nat.succ_le_iff, Nat.log2_lt h]

theorem le_roundHalfEven (num den : Nat) : num / den ≤ roundHalfEven num den := by
  simp only [roundHalfEven]
  split
  · exact Nat.le_refl _
  · split <;> omega

theorem roundHalfEven_le {num den bound : Nat} (h : num / den < bound) :
    roundHalfEven num den ≤ bound := by
  simp only [roundHalfEven]
  split
  · omega
  · split <;> omega

/-- An odd quotient is rounded up from half a step on. -/
theorem roundHalfEven_of_odd {num den : Nat} (odd : num / den % 2 = 1) :
    roundHalfEven num den = if 2 * (num % den) < den then num / den else num / den + 1 := by
  simp only [roundHalfEven, odd]
  split
  · rfl
  · split <;> rfl

theorem roundUnits_one (n : Nat) : roundUnits n 1 =
    roundHalfEven n (2 ^ (bitLength n - 53)) * 2 ^ (bitLength n - 53) := by
  simp [roundUnits, spacing]

/-- A number below a power of two is not rounded beyond it. -/
theorem roundUnits_le {n k : Nat} (h : n < 2 ^ k) : roundUnits n 1 ≤ 2 ^ k := by
  have hbits := bitLength_le_iff.mpr h
  have hbelow : n < 2 ^ bitLength n := bitLength_le_iff.mp (Nat.le_refl _)
  have hsplit : 2 ^ bitLength n = 2 ^ min (bitLength n) 53 * 2 ^ (bitLength n - 53) :=
    two_pow_split (by omega)
  have hquotient : n / 2 ^ (bitLength n - 53) < 2 ^ min (bitLength n) 53 := by
    rw [Nat.div_lt_iff_lt_mul (Nat.two_pow_pos _), ← hsplit]
    exact hbelow
  calc roundUnits n 1
      = roundHalfEven n (2 ^ (bitLength n - 53)) * 2 ^ (bitLength n - 53) := roundUnits_one n
    _ ≤ 2 ^ min (bitLength n) 53 * 2 ^ (bitLength n - 53) :=
        Nat.mul_le_mul_right _ (roundHalfEven_le hquotient)
    _ = 2 ^ bitLength n := hsplit.symm
    _ ≤ 2 ^ k := Nat.pow_le_pow_right (by decide) hbits

/-- A number from a power of two on is not rounded below it. -/
theorem le_roundUnits {n k : Nat} (hk : 53 ≤ k) (h : 2 ^ k ≤ n) : 2 ^ k ≤ roundUnits n 1 := by
  have hbits : k < bitLength n := by
    rw [← Nat.not_le, bitLength_le_iff]
    omega
  have habove : 2 ^ (bitLength n - 1) ≤ n := by
    rw [← Nat.not_lt, ← bitLength_le_iff]
    omega
  have hsplit : 2 ^ (bitLength n - 1) = 2 ^ 52 * 2 ^ (bitLength n - 53) :=
    two_pow_split (by omega)
  have hquotient : 2 ^ 52 ≤ n / 2 ^ (bitLength n - 53) := by
    rw [Nat.le_div_iff_mul_le (Nat.two_pow_pos _), ← hsplit]
    exact habove
  calc 2 ^ k
      ≤ 2 ^ (bitLength n - 1) := Nat.pow_le_pow_right (by decide) (by omega)
    _ = 2 ^ 52 * 2 ^ (bitLength n - 53) := hsplit
    _ ≤ roundHalfEven n (2 ^ (bitLength n - 53)) * 2 ^ (bitLength n - 53) :=
        Nat.mul_le_mul_right _ (Nat.le_trans hquotient (le_roundHalfEven _ _))
    _ = roundUnits n 1 := (roundUnits_one n).symm

/-- Right below a power of two the last step is odd, so that half of it is rounded up. -/
theorem roundUnits_lt_iff_of_bitLength {n k : Nat} (hk : 54 ≤ k) (hbits : bitLength n = k) :
    roundUnits n 1 < 2 ^ k ↔ n + 2 ^ (k - 54) < 2 ^ k := by
  have hstep : 2 ^ (k - 53) = 2 ^ 1 * 2 ^ (k - 54) := two_pow_split (by omega)
  have hpower : 2 ^ k = 2 ^ 53 * 2 ^ (k - 53) := two_pow_split (by omega)
  have hpos : 0 < 2 ^ (k - 54) := Nat.two_pow_pos _
  have hbelow : n < 2 ^ k := bitLength_le_iff.mp (Nat.le_of_eq hbits)
  rw [roundUnits_one, hbits, hpower]
  rw [hpower] at hbelow
  generalize 2 ^ (k - 54) = half at *
  generalize 2 ^ (k - 53) = step at *
  have hquotient : n / step < 2 ^ 53 := (Nat.div_lt_iff_lt_mul (by omega)).mpr hbelow
  have hdivision : n / step * step + n % step = n := Nat.div_add_mod' n step
  have hrest : n % step < step := Nat.mod_lt _ (by omega)
  by_cases hlast : n / step = 2 ^ 53 - 1
  · rw [roundHalfEven_of_odd (by omega)]
    rw [hlast] at hdivision ⊢
    split <;> omega
  · have hle : n / step + 1 ≤ 2 ^ 53 - 1 := by omega
    have hproduct := Nat.mul_le_mul_right step hle
    have hless : n / step < 2 ^ 53 - 1 := by omega
    have hrounded := Nat.mul_le_mul_right step (roundHalfEven_le hless)
    rw [Nat.add_mul] at hproduct
    omega

/-- Rounding stays below a power of two exactly up to half a step below it. -/
theorem roundUnits_lt_iff {n k : Nat} (hk : 54 ≤ k) :
    roundUnits n 1 < 2 ^ k ↔ n + 2 ^ (k - 54) < 2 ^ k := by
  have htwice : 2 ^ k = 2 ^ 1 * 2 ^ (k - 1) := two_pow_split (by omega)
  have hhalf : 2 ^ (k - 54) ≤ 2 ^ (k - 1) := Nat.pow_le_pow_right (by decide) (by omega)
  have hpos : 0 < 2 ^ (k - 54) := Nat.two_pow_pos _
  rcases Nat.lt_trichotomy (bitLength n) k with hbits | hbits | hbits
  · have hbelow : n < 2 ^ (k - 1) := bitLength_le_iff.mp (by omega)
    have hrounded := roundUnits_le hbelow
    omega
  · exact roundUnits_lt_iff_of_bitLength hk hbits
  · have habove : 2 ^ k ≤ n := by
      rw [← Nat.not_lt, ← bitLength_le_iff]
      omega
    have hrounded := le_roundUnits (by omega : 53 ≤ k) habove
    omega

theorem roundUnits_mul_lt_iff (n : Nat) {k : Nat} (hk : 54 ≤ k) (l : Nat) :
    roundUnits (n * 2 ^ l) 1 < 2 ^ (k + l) ↔ n + 2 ^ (k - 54) < 2 ^ k := by
  have hhalf : 2 ^ (k + l - 54) = 2 ^ (k - 54) * 2 ^ l := two_pow_split (by omega)
  rw [roundUnits_lt_iff (by omega), hhalf, Nat.pow_add, ← Nat.add_mul]
  exact Nat.mul_lt_mul_right (Nat.two_pow_pos l)

def finite? : Binary64 → Option Binary64
  | .finite negative units => some (.finite negative units)
  | _ => none

theorem ofInt?_eq_finite? (i : Int) : ofInt? i = finite? (ofRatio (i < 0) i.natAbs 1) := by
  have heq : ofInt? = fun j : Int => finite? (ofRatio (j < 0) j.natAbs 1) := by
    -- Unfolded at an argument, the number would be computed.
    delta ofInt?
    funext j
    generalize ofRatio (j < 0) j.natAbs 1 = x
    cases x <;> rfl
  exact congrFun heq i

theorem ofRatio_one (negative : Bool) (n : Nat) :
    ofRatio negative n 1 = ofUnits negative (roundUnits (n * unitsPerOne) 1) := rfl

theorem finite?_ofUnits_eq_none_iff {negative : Bool} {units : Nat} :
    finite? (ofUnits negative units) = none ↔ unitsLimit ≤ units := by
  unfold ofUnits
  generalize unitsLimit = limit
  by_cases h : limit ≤ units <;> simp [finite?, h]

/-- The integers without a finite double. -/
theorem ofInt?_eq_none_iff {i : Int} : ofInt? i = none ↔ integerLimit ≤ i.natAbs := by
  have hunits : unitsPerOne = 2 ^ 1074 := by decide +kernel
  have hunitsLimit : unitsLimit = 2 ^ (1024 + 1074) := by decide +kernel
  have hlimit : integerLimit + 2 ^ (1024 - 54) = 2 ^ 1024 := by decide +kernel
  have hround := roundUnits_mul_lt_iff i.natAbs (show 54 ≤ 1024 by decide) 1074
  rw [← hunits, ← hunitsLimit, ← hlimit] at hround
  rw [ofInt?_eq_finite?, ofRatio_one, finite?_ofUnits_eq_none_iff, ← Nat.not_lt, hround]
  omega

end NextWord.Binary64
