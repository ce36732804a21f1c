import NextWord.Text.Blank
import NextWord.Text.DecimalDigit
import NextWord.Text.Uppercase
import NextWord.Text.WordChar

/-!
# Tests on one character

What an expression may ask of one character: to be any, any but a line feed, one certain character
or not that one, or to be in a set or outside it. Where case is ignored, characters are compared by
their lower-case form, and small letters that share a capital count as one.

A set that ignores case treats its members beyond the first 65536 code points in a way of its own.
A single member there is met by the lower-case form of a character only, so a capital is met by
nothing. A range that ends there is met by the lower-case form or by the upper-case form of that.
-/

namespace NextWord

inductive Folding
  | exact
  | ascii
  | full
  deriving DecidableEq, Repr

structure RegexOptions where
  ignoreCase : Bool := false
  multiline : Bool := false
  dotAll : Bool := false
  asciiOnly : Bool := false
  verbose : Bool := false
  deriving DecidableEq, Repr

def RegexOptions.folding (o : RegexOptions) : Folding :=
  if !o.ignoreCase then .exact else if o.asciiOnly then .ascii else .full

inductive CharClass
  | digit
  | space
  | word
  deriving DecidableEq, Repr

inductive SetItem
  | code (n : Nat)
  | range (first last : Nat)
  | ofClass (c : CharClass) (complement : Bool)
  deriving DecidableEq, Repr

inductive CharTest
  | any
  | notLineFeed
  | code (n : Nat) (complement : Bool) (folding : Folding)
  | set (items : List SetItem) (complement asciiOnly : Bool) (folding : Folding)
  deriving DecidableEq, Repr

namespace CharClass

/-- Whether a character belongs to a class, all scripts considered unless only ASCII is. -/
def contains (asciiOnly : Bool) (c : Char) : CharClass → Bool
  | .digit => Text.isDigit c && (!asciiOnly || Text.isAscii c)
  | .space =>
    if asciiOnly then (9 ≤ c.toNat && c.toNat ≤ 13) || c == ' ' else Text.isBlank c
  | .word => Text.isWord c && (!asciiOnly || Text.isAscii c)

end CharClass

namespace Folding

/-- The form by which a character is compared. -/
def lowered (c : Char) : Folding → Char
  | .exact => c
  | .ascii => c.toLower
  | .full => Text.lowerChar c

/-- The code points that a comparison does not tell from a character. -/
def variants (c : Char) : Folding → List Nat
  | .exact => [c.toNat]
  | .ascii => [c.toLower.toNat, c.toUpper.toNat]
  | .full => Text.caseVariants c

/-- Whether a range holds a character that is compared by another form than itself. -/
def touches (first last : Nat) : Folding → Bool
  | .exact => false
  | .ascii => Text.hasAsciiLetter first last
  | .full => Text.hasCased first last

/-- The code points whose lower-case form has others beside it that share its capital. -/
def hasTwins (n : Nat) : Folding → Bool
  | .full => Text.caseTwins.any (·.contains (Text.lowerChar (Char.ofNat n)).toNat)
  | _ => false

end Folding

namespace SetItem

/-- The first code point that sets which ignore case treat in a way of its own. -/
def wideFrom : Nat := 0x10000

def contains (folding : Folding) (asciiOnly : Bool) (c : Char) : SetItem → Bool
  | .code n =>
    if n < wideFrom then (folding.variants c).contains n else (folding.lowered c).toNat == n
  | .range first last =>
    let encloses (n : Nat) : Bool := first ≤ n && n ≤ last
    if last < wideFrom then (folding.variants c).any encloses
    else (folding.variants c).any (fun n => n < wideFrom && encloses n) ||
      encloses (folding.lowered c).toNat ||
      (folding != .exact && encloses (Text.upperChar (folding.lowered c)).toNat)
  | .ofClass k complement => k.contains asciiOnly (folding.lowered c) != complement

/-- Whether a member makes a set compare by other forms than the characters themselves. -/
def folds (folding : Folding) : SetItem → Bool
  | .code n => wideFrom ≤ n || folding.touches n n
  | .range first last => wideFrom ≤ last || folding.touches first last
  | .ofClass _ _ => false

end SetItem

namespace CharTest

/-- The test for one code point or, as a complement, for all others. -/
def ofCode (options : RegexOptions) (complement : Bool) (n : Nat) : CharTest :=
  .code n complement (if options.folding.touches n n then options.folding else .exact)

/-- The test for members of a set; equal members count once, and a single code point is no set. -/
def ofItems (options : RegexOptions) (complement : Bool) (items : List SetItem) : CharTest :=
  match items.eraseDups with
  | [.code n] => ofCode options complement n
  | items =>
    .set items complement options.asciiOnly
      (if options.folding != .exact && items.any (·.folds options.folding) then options.folding
        else .exact)

def accepts (c : Char) : CharTest → Bool
  | .any => true
  | .notLineFeed => c != '\n'
  | .code n complement folding => (folding.variants c).contains n != complement
  | .set items complement asciiOnly folding =>
    items.any (·.contains folding asciiOnly c) != complement

/-- The members of a test that names what it accepts. -/
def members? : CharTest → Option (List SetItem)
  | .code n false _ => some [.code n]
  | .set items false _ _ => some items
  | _ => none

/-- Whether the next character alone shows that a match cannot start with a test. -/
def refusesAtOnce : CharTest → Bool
  | .code _ false .exact => true
  | .set _ _ _ .exact => true
  | _ => false

/-- Whether characters that pass are counted by matching them one after the other. -/
def countsByMatching : CharTest → Bool
  | .set _ _ _ folding => folding != .exact
  | .code n _ folding => folding.hasTwins n
  | _ => false

end CharTest
end NextWord
