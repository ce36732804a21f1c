import NextWord.Value.Basic

/-!
# Equality of values

Numbers are compared by their exact value, and inside lists and objects a boolean counts as the
number nought or one. Lists are compared element by element, objects key by key in any order. A NaN
differs from every number; only inside a container is the NaN that a constant writes the same thing
as itself.
-/

namespace NextWord

inductive Number
  | int (i : Int)
  | float (x : Binary64)
  deriving DecidableEq, Repr

namespace Number

/-- Exact order of two numbers, `none` with a NaN. -/
def compare? : Number → Number → Option Ordering
  | .int i, .int j => some (compare i j)
  | .int i, .float y => (y.compareInt? i).map Ordering.swap
  | .float x, .int j => x.compareInt? j
  | .float x, .float y => x.compare? y

def equal (m n : Number) : Bool :=
  m.compare? n == some .eq

/-- Equality by value, or the written NaN twice. -/
def same : Number → Number → Bool
  | .float (.nan true), .float (.nan true) => true
  | m, n => m.equal n

end Number

namespace Value

/-- A value as a number, booleans included. -/
def toNumber? : Value → Option Number
  | .bool b => some (.int (if b then 1 else 0))
  | .int i => some (.int i)
  | .float x => some (.float x)
  | _ => none

/-- A value as a number, booleans excluded. -/
def number? : Value → Option Number
  | .int i => some (.int i)
  | .float x => some (.float x)
  | _ => none

def sameScalar (v w : Value) : Bool :=
  match v, w with
  | .absent, .absent => true
  | .null, .null => true
  | .str s, .str t => s == t
  | .moment k s, .moment l t => k == l && s == t
  | _, _ =>
    match v.toNumber?, w.toNumber? with
    | some m, some n => m.same n
    | _, _ => false

mutual

/-- Equality of members of containers. -/
def same : Value → Value → Bool
  | .list vs, .list ws => sameItems vs ws
  | .dict es, .dict fs => es.length == fs.length && agreesWith es fs
  | .absent, w => sameScalar .absent w
  | .null, w => sameScalar .null w
  | .bool b, w => sameScalar (.bool b) w
  | .int i, w => sameScalar (.int i) w
  | .float x, w => sameScalar (.float x) w
  | .str s, w => sameScalar (.str s) w
  | .moment k s, w => sameScalar (.moment k s) w
  | .list _, _ => false
  | .dict _, _ => false

def sameItems : List Value → List Value → Bool
  | [], [] => true
  | v :: vs, w :: ws => same v w && sameItems vs ws
  | _, _ => false

/-- Whether every entry has an equal one under its key in the other object. -/
def agreesWith : List (Key × Value) → List (Key × Value) → Bool
  | [], _ => true
  | (key, v) :: es, fs =>
    (match Table.find? key fs with
      | some w => same v w
      | none => false) && agreesWith es fs

end

/-- Equality of two values that stand on their own. -/
def equal : Value → Value → Bool
  | .float x, .float y => Number.equal (.float x) (.float y)
  | v, w => same v w

/-- Whether a list holds a value, the written NaN being found again. -/
def isIn (v : Value) (items : List Value) : Bool :=
  items.any (same v)

/-- The key of an object that a value finds: a string its name, a number the index it equals. -/
def toKey? : Value → Option Key
  | .str s => some (.name s)
  | .bool b => some (.index (if b then 1 else 0))
  | .int i => if 0 ≤ i then some (.index i.toNat) else none
  | .float x =>
    match x.toInt? with
    | some i => if 0 ≤ i then some (.index i.toNat) else none
    | none => none
  | _ => none

end Value
end NextWord
