/-!
# Ranges of code points

A property of characters is stored as a list of closed ranges of code points. Membership scans the
list; the lists of this library are consulted for characters outside ASCII only, so their order
carries no meaning beyond being readable.
-/

namespace NextWord.Text

/-- Closed ranges of code points, first and last included. -/
abbrev Ranges := List (Nat × Nat)

def Ranges.covers (ranges : Ranges) (n : Nat) : Bool :=
  ranges.any fun (first, last) => first ≤ n && n ≤ last

def Ranges.contains (ranges : Ranges) (c : Char) : Bool :=
  ranges.covers c.toNat

def isAscii (c : Char) : Bool := c.toNat < 128

end NextWord.Text
