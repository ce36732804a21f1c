import NextWord.Text.Printable

/-!
# Quoted text

How a text is shown inside a message. It stands between apostrophes, or between double quotes when
it holds an apostrophe and no double quote. The quotation mark in use and the backslash are written
after a backslash, line breaks, carriage returns and tabs have escapes of their own, and every other
character that is not printable is written by its code point in hexadecimal, two, four or eight
digits wide.
-/

namespace NextWord.Text

/-- The last `width` hexadecimal digits of a number. -/
def hexDigits : Nat → Nat → List Char
  | 0, _ => []
  | width + 1, n => hexDigits width (n / 16) ++ [(n % 16).digitChar]

def codePointEscape (c : Char) : List Char :=
  let n := c.toNat
  if n < 0x100 then '\\' :: 'x' :: hexDigits 2 n
  else if n < 0x10000 then '\\' :: 'u' :: hexDigits 4 n
  else '\\' :: 'U' :: hexDigits 8 n

/-- The quotation mark that needs the fewest escapes, the apostrophe if in doubt. -/
def quotationMark (text : List Char) : Char :=
  if text.contains '\'' && !text.contains '"' then '"' else '\''

def quoteChar (mark c : Char) : List Char :=
  if c = mark ∨ c = '\\' then ['\\', c]
  else if c = '\n' then ['\\', 'n']
  else if c = '\r' then ['\\', 'r']
  else if c = '\t' then ['\\', 't']
  else if isPrintable c then [c]
  else codePointEscape c

def quote (text : List Char) : List Char :=
  let mark := quotationMark text
  mark :: text.flatMap (quoteChar mark) ++ [mark]

def quoted (text : String) : String :=
  String.ofList (quote text.toList)

def quotedChar (c : Char) : String :=
  String.ofList (quote [c])

end NextWord.Text
