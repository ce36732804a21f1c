import NextWord.Text.Blank
import NextWord.Text.DecimalDigit

/-!
# Whole numbers

Reading a whole number from a text that holds nothing else: an optional sign, then decimal digits of
any script, single underscores being allowed between digits. Blanks may surround the number.
-/

namespace NextWord.Text

/-- Blanks that may surround a number: all but the four controls that separate records. -/
def surroundsNumber (c : Char) : Bool :=
  isBlank c && !(0x1c ≤ c.toNat && c.toNat ≤ 0x1f)

/-- The number that groups of digits write, an underscore between any two groups. -/
def groupedNat? (text : List Char) : Option Nat :=
  let groups := text.splitOn '_'
  if groups.all fun digits => !digits.isEmpty && digits.all isDigit then
    some (readNat groups.flatten)
  else none

def wholeNumber? (text : List Char) : Option Int :=
  let inner := (text.dropWhile surroundsNumber).reverse.dropWhile surroundsNumber |>.reverse
  match inner with
  | '-' :: digits => (groupedNat? digits).map fun n => -(n : Int)
  | '+' :: digits => (groupedNat? digits).map Int.ofNat
  | digits => (groupedNat? digits).map Int.ofNat

end NextWord.Text
