/-!
# Double-precision numbers

A finite double is a whole multiple of the least positive one, 2^-1074, so it is kept as its sign
and that multiple. Equality and order with integers and with other doubles are exact, and every
operation computes the exact result first and rounds it once, to the nearest double, ties to the
even significand. That the multiple has at most 53 significant bits is kept by the operations here
and not recorded in the type.

Two kinds of NaN are told apart: the one that a constant writes, which is a single value, and those
that arithmetic yields, which are different each time. Only the first is the same thing as itself.
-/

namespace NextWord

/-- A double: its sign and its size in units of 2^-1074, an infinity, or no number at all. -/
inductive Binary64
  | finite (negative : Bool) (units : Nat)
  | infinite (negative : Bool)
  | nan (written : Bool)
  deriving DecidableEq, Repr, Inhabited

namespace Binary64

def unitsPerOne : Nat := Nat.pow 2 1074

/-- The size, in units, from which on a number is infinite. -/
def unitsLimit : Nat := Nat.pow 2 2098

def bitLength (n : Nat) : Nat :=
  if n = 0 then 0 else n.log2 + 1

/-- The quotient rounded to the nearest integer, a tie to the even one. -/
def roundHalfEven (num den : Nat) : Nat :=
  let q := num / den
  let r := num % den
  if 2 * r < den then q else if den < 2 * r then q + 1 else q + q % 2

/-- The spacing of the doubles around a size given in units. -/
def spacing (units : Nat) : Nat :=
  Nat.pow 2 (bitLength units - 53)

/-- The quotient rounded to a whole number of units with at most 53 significant bits. -/
def roundUnits (num den : Nat) : Nat :=
  let step := spacing (num / den)
  roundHalfEven num (den * step) * step

/-- The double of a size in units, infinite if the size is out of range. -/
def ofUnits (negative : Bool) (units : Nat) : Binary64 :=
  if unitsLimit ≤ units then .infinite negative else .finite negative units

def ofRatio (negative : Bool) (num den : Nat) : Binary64 :=
  ofUnits negative (roundUnits (num * unitsPerOne) den)

/-- The double nearest to an integer, if there is a finite one. -/
def ofInt? (i : Int) : Option Binary64 :=
  match ofRatio (i < 0) i.natAbs 1 with
  | .finite negative units => some (.finite negative units)
  | _ => none

/-- The double nearest to `digits · 10 ^ exponent`. Exponents far out of range are decided by the
number of digits alone. -/
def ofDecimal (negative : Bool) (digits : Nat) (digitCount : Nat) (exponent : Int) : Binary64 :=
  if digits = 0 then .finite negative 0
  else if 400 < exponent then .infinite negative
  else if exponent + digitCount < -400 then .finite negative 0
  else match exponent with
    | .ofNat e => ofRatio negative (digits * Nat.pow 10 e) 1
    | .negSucc e => ofRatio negative digits (Nat.pow 10 (e + 1))

def signed (negative : Bool) (units : Nat) : Int :=
  if negative then -(units : Int) else units

/-- The nearest double to a whole number of units; nothing is positive. -/
def ofSigned (i : Int) : Binary64 :=
  ofUnits (i < 0) (roundUnits i.natAbs 1)

/-- The opposite number. The opposite of a NaN is a new NaN. -/
def neg : Binary64 → Binary64
  | .finite negative units => .finite (!negative) units
  | .infinite negative => .infinite (!negative)
  | .nan _ => .nan false

/-- The sum, rounded once. -/
def add : Binary64 → Binary64 → Binary64
  | .finite s m, .finite t n =>
    if m = 0 ∧ n = 0 then .finite (s && t) 0 else ofSigned (signed s m + signed t n)
  | .infinite s, .infinite t => if s = t then .infinite s else .nan false
  | .infinite s, .finite _ _ => .infinite s
  | .finite _ _, .infinite t => .infinite t
  | .nan _, _ => .nan false
  | _, .nan _ => .nan false

def sub (x y : Binary64) : Binary64 :=
  x.add y.neg

/-- Exact order: `none` if one of the two is not a number. -/
def compare? : Binary64 → Binary64 → Option Ordering
  | .nan _, _ => none
  | _, .nan _ => none
  | .infinite s, .infinite t => some (if s = t then .eq else if s then .lt else .gt)
  | .infinite s, .finite _ _ => some (if s then .lt else .gt)
  | .finite _ _, .infinite t => some (if t then .gt else .lt)
  | .finite s m, .finite t n => some (compare (signed s m) (signed t n))

def compareInt? : Binary64 → Int → Option Ordering
  | .nan _, _ => none
  | .infinite s, _ => some (if s then .lt else .gt)
  | .finite s m, i => some (compare (signed s m) (i * unitsPerOne))

def toInt? : Binary64 → Option Int
  | .finite s m => if m % unitsPerOne = 0 then some (signed s (m / unitsPerOne)) else none
  | _ => none

/-- Whether the number differs from nought; a NaN does. -/
def isNonzero : Binary64 → Bool
  | .finite _ m => m != 0
  | _ => true

/-- The word of the interchange format, sign bit first. -/
def toBits : Binary64 → Nat
  | .finite s m =>
    (if s then Nat.pow 2 63 else 0) +
      (let shift := bitLength m - 53
       if shift = 0 then m else (shift + 1) * Nat.pow 2 52 + (m / Nat.pow 2 shift - Nat.pow 2 52))
  | .infinite s => (if s then Nat.pow 2 63 else 0) + 0x7ff * Nat.pow 2 52
  | .nan _ => 0x7ff8 * Nat.pow 2 48

end Binary64
end NextWord
