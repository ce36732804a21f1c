import NextWord.Text.CharName.EuropeanScripts
import NextWord.Text.CharName.GlagoliticToForms
import NextWord.Text.CharName.HistoricScripts
import NextWord.Text.CharName.MusicToMovement
import NextWord.Text.CharName.MyanmarToGreek
import NextWord.Text.CharName.Pictographs
import NextWord.Text.CharName.SecondNames
import NextWord.Text.CharName.SemiticAndIndicScripts
import NextWord.Text.CharName.SignScripts
import NextWord.Text.CharName.Symbols
import NextWord.Text.Numeral
import NextWord.Text.Pieces
import NextWord.Text.Ranges

/-!
# Characters by name

The character that Unicode 14 gives a name to. Most names stand in tables of blocks. The block
`61 LATIN SMALL LETTER |A|B` names consecutive characters from the hexadecimal code point in front:
each name is the stem between the blank and the first bar with one of the tails behind it. These
names are found whatever the case of their letters.

Other names follow a rule. Ideographs are named by their code point, and a Hangul syllable by its
leading consonant, its vowel and its trailing consonant, written one behind the other.
-/

namespace NextWord.Text.CharName

/-- The code point that a block gives a name to. -/
def inBlock? (name : List Char) (block : String) : Option Nat :=
  let (number, names) := cutOnce ' ' block.toList
  let (stem, tails) := cutOnce '|' names
  match after? stem name with
  | some tail => ((tails.splitOn '|').idxOf? tail).map (numeral 16 number + ·)
  | none => none

def tables : List (List String) :=
  [europeanScripts, semiticAndIndicScripts, myanmarToGreek, symbols, glagoliticToForms,
   historicScripts, signScripts, musicToMovement, pictographs, secondNames]

/-- The code point that a table gives a name to, by the letters in upper case. -/
def listed? (name : List Char) : Option Nat :=
  tables.findSome? fun table => table.findSome? (inBlock? name)

/-- Digits of code points: the letters among them are capitals. -/
def isCodeDigit (c : Char) : Bool :=
  isHexDigit c && !c.isLower

def unifiedIdeographs : Ranges :=
  [(0x3400, 0x4dbf), (0x4e00, 0x9fff), (0x20000, 0x2a6df), (0x2a700, 0x2b738), (0x2b740, 0x2b81d),
   (0x2b820, 0x2cea1), (0x2ceb0, 0x2ebe0), (0x30000, 0x3134a)]

/-- The code point of a unified ideograph, which has four or five digits. -/
def unifiedIdeograph? (digits : List Char) : Option Nat :=
  let n := numeral 16 digits
  if (digits.length = 4 ∨ digits.length = 5) ∧ digits.all isCodeDigit ∧
      unifiedIdeographs.covers n then some n
  else none

/-- Further characters named by their code point, with what stands in front of it. -/
def numbered : List (String × Ranges) :=
  [("CJK COMPATIBILITY IDEOGRAPH-", [(0xf900, 0xfa6d), (0xfa70, 0xfad9), (0x2f800, 0x2fa1d)]),
   ("KHITAN SMALL SCRIPT CHARACTER-", [(0x18b00, 0x18cd5)]),
   ("NUSHU CHARACTER-", [(0x1b170, 0x1b2fb)])]

/-- The code point of a character whose name ends with it, without noughts in front. -/
def numbered? (name : List Char) : Option Nat :=
  numbered.findSome? fun (stem, ranges) =>
    match after? stem.toList name with
    | some digits =>
      let n := numeral 16 digits
      if digits.head? ≠ some '0' ∧ digits.all isCodeDigit ∧ ranges.covers n then some n
      else none
    | none => none

def leading : List String :=
  ["G", "GG", "N", "D", "DD", "R", "M", "B", "BB", "S", "SS", "", "J", "JJ", "C", "K", "T", "P", "H"]

def vowels : List String :=
  ["A", "AE", "YA", "YAE", "EO", "E", "YEO", "YE", "O", "WA", "WAE", "OE", "YO", "U", "WEO", "WE",
   "WI", "YU", "EU", "YI", "I"]

def trailing : List String :=
  ["", "G", "GG", "GS", "N", "NJ", "NH", "D", "L", "LG", "LM", "LB", "LS", "LT", "LP", "LH", "M",
   "B", "BS", "S", "SS", "NG", "J", "C", "K", "T", "P", "H"]

/-- The place of the longest sound that a text starts with, and the text behind it. -/
def longestSound? (sounds : List String) (text : List Char) : Option (Nat × List Char) :=
  let starting := sounds.filter fun s => s.toList.isPrefixOf text
  match starting.mergeSort (fun s t => t.length ≤ s.length) with
  | [] => none
  | s :: _ => (sounds.idxOf? s).map fun n => (n, text.drop s.length)

def hangulSyllable? (sounds : List Char) : Option Nat :=
  match longestSound? leading sounds with
  | none => none
  | some (l, rest) =>
    match longestSound? vowels rest with
    | none => none
    | some (v, rest) =>
      match longestSound? trailing rest with
      | some (t, []) => some (0xac00 + (l * vowels.length + v) * trailing.length + t)
      | _ => none

/-- The code point of the character of a name. Names by rule are written in capitals. -/
def codePoint? (name : List Char) : Option Nat :=
  match after? "HANGUL SYLLABLE ".toList name,
      after? "CJK UNIFIED IDEOGRAPH-".toList name with
  | some sounds, _ => hangulSyllable? sounds
  | none, some digits => unifiedIdeograph? digits
  | none, none =>
    let name := name.map Char.toUpper
    match numbered? name with
    | some n => some n
    | none => listed? name

end NextWord.Text.CharName
