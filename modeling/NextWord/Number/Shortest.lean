import NextWord.Number.Binary64
import NextWord.Text.DecimalDigit

/-!
# Shortest decimal text of a double

The fewest significant digits that read back as the same double, the nearest such number if there
are two. The reals that read back as a double form an interval around it, its ends included when
the significand is even; a decimal grid of `n` digits meets the interval only if one of the two grid
points next to the double lies in it, so those two are tried for `n = 1, 2, …, 17`.

Positional notation is used from 0.0001 up to, and excluding, 10^16; it always shows a point. Other
numbers have one digit before the point and an exponent of at least two digits with its sign.
-/

namespace NextWord

/-- A positive decimal number, `digits · 10 ^ exponent`. -/
structure Decimal where
  digits : Nat
  exponent : Int
  deriving DecidableEq, Repr

namespace Decimal

/-- How a decimal number compares with `halves / 2` units of a double. -/
def compareHalves (d : Decimal) (halves : Nat) : Ordering :=
  match d.exponent with
  | .ofNat e => compare (d.digits * Nat.pow 10 e * (2 * Binary64.unitsPerOne)) halves
  | .negSucc e => compare (d.digits * (2 * Binary64.unitsPerOne)) (halves * Nat.pow 10 (e + 1))

/-- Drops noughts at the end of the digits; `fuel` bounds their number. -/
def trim : Nat → Decimal → Decimal
  | 0, d => d
  | fuel + 1, d =>
    if d.digits ≠ 0 ∧ d.digits % 10 = 0 then trim fuel ⟨d.digits / 10, d.exponent + 1⟩ else d

end Decimal

namespace Binary64

/-- The least `j` from `start` on with `10 ^ j` times the number at least one. -/
def leadingNoughts (units : Nat) : Nat → Nat → Nat
  | 0, j => j
  | fuel + 1, j =>
    if unitsPerOne ≤ units * Nat.pow 10 j then j else leadingNoughts units fuel (j + 1)

/-- The exponent `k` with the number at least `10 ^ (k - 1)` and below `10 ^ k`. -/
def decimalPlace (units : Nat) : Int :=
  let whole := units / unitsPerOne
  if whole = 0 then 1 - (leadingNoughts units 400 0 : Int) else (Text.writeNat whole).length

/-- Twice the distance from a double to the next one below it, in units. -/
def gapBelow (units : Nat) : Nat :=
  let step := spacing units
  if 1 < step ∧ units = Nat.pow 2 52 * step then step else 2 * step

def readsBack (units : Nat) (d : Decimal) : Bool :=
  let step := spacing units
  let even := (units / step) % 2 == 0
  let low := d.compareHalves (2 * units - gapBelow units / 2)
  let high := d.compareHalves (2 * units + step)
  (low == .gt || (even && low == .eq)) && (high == .lt || (even && high == .eq))

/-- The point below the double on the grid `10 ^ exponent`. -/
def gridBelow (units : Nat) : Int → Nat
  | .ofNat e => units / (unitsPerOne * Nat.pow 10 e)
  | .negSucc e => units * Nat.pow 10 (e + 1) / unitsPerOne

/-- The better of the two neighbours on a grid, if one of them reads back. -/
def onGrid? (units : Nat) (exponent : Int) : Option Decimal :=
  let below : Decimal := ⟨gridBelow units exponent, exponent⟩
  let above : Decimal := ⟨below.digits + 1, exponent⟩
  match readsBack units below, readsBack units above with
  | true, true =>
    match Decimal.compareHalves ⟨(below.digits + above.digits) * 5, exponent - 1⟩ (2 * units) with
    | .lt => some above
    | .gt => some below
    | .eq => some (if below.digits % 2 = 0 then below else above)
  | true, false => some below
  | false, true => some above
  | false, false => none

/-- The first grid with a number that reads back; `fuel` counts the grids left to try. -/
def shortestFrom (units : Nat) (place : Int) : Nat → Nat → Decimal
  | 0, n => ⟨gridBelow units (place - n), place - n⟩
  | fuel + 1, n =>
    match onGrid? units (place - n) with
    | some d => d
    | none => shortestFrom units place fuel (n + 1)

def shortest (units : Nat) : Decimal :=
  (shortestFrom units (decimalPlace units) 17 1).trim 400

/-- Choices of a decimal notation: the powers of ten between which it is positional, and the least
number of digits of an exponent. -/
structure DecimalStyle where
  leastPlace : Int
  lastPlace : Int
  exponentWidth : Nat

/-- Positional from 0.0001 to below 10^16, exponents with two digits or more. -/
def plainStyle : DecimalStyle := ⟨-3, 16, 2⟩

def exponentText (width : Nat) (e : Int) : List Char :=
  let digits := Text.writeNat e.natAbs
  (if e < 0 then '-' else '+') :: List.replicate (width - digits.length) '0' ++ digits

def decimalText (style : DecimalStyle) (d : Decimal) : List Char :=
  let digits := Text.writeNat d.digits
  let place := (digits.length : Int) + d.exponent
  if style.leastPlace ≤ place ∧ place ≤ style.lastPlace then
    if place ≤ 0 then '0' :: '.' :: List.replicate place.natAbs '0' ++ digits
    else if d.exponent ≥ 0 then digits ++ List.replicate d.exponent.natAbs '0' ++ ['.', '0']
    else digits.take place.natAbs ++ '.' :: digits.drop place.natAbs
  else
    match digits with
    | [] => []
    | first :: more =>
      first :: (if more.isEmpty then [] else '.' :: more) ++
        'e' :: exponentText style.exponentWidth (place - 1)

def text : Binary64 → String
  | .finite negative 0 => if negative then "-0.0" else "0.0"
  | .finite negative units =>
    (if negative then "-" else "") ++ String.ofList (decimalText plainStyle (shortest units))
  | .infinite negative => if negative then "-inf" else "inf"
  | .nan _ => "nan"

end Binary64
end NextWord
