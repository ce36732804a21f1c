import NextWord.Text.Numeral
import NextWord.Text.Pieces
import NextWord.Value.Basic

/-!
# Reading JSON text

A reader of the JSON grammar with three additions: the constants `NaN`, `Infinity` and `-Infinity`.
Integers are unbounded, numbers with a fraction or an exponent are doubles. White space is space,
tab, line feed and carriage return only. A control character inside a string is an error. Of equal
keys of an object the last value counts. Half of a surrogate pair standing alone is replaced by
U+FFFD.

Every reader takes the characters left and returns its result with those it left in turn. `fuel`
bounds the number of characters to read.
-/

namespace NextWord.Json

open Text (after? hexValue? numeral)

def isSpace (c : Char) : Bool :=
  c == ' ' || c == '\t' || c == '\n' || c == '\r'

def skip (text : List Char) : List Char :=
  text.dropWhile isSpace

def hex4? : List Char → Option (Nat × List Char)
  | a :: b :: c :: d :: rest =>
    match hexValue? a, hexValue? b, hexValue? c, hexValue? d with
    | some a, some b, some c, some d => some (((a * 16 + b) * 16 + c) * 16 + d, rest)
    | _, _, _, _ => none
  | _ => none

/-- The character of a code unit; half of a pair has none of its own. -/
def unitChar (n : Nat) : Char :=
  if 0xd800 ≤ n ∧ n < 0xe000 then '\ufffd' else Char.ofNat n

/-- The character of an escape that starts with the hexadecimal unit `n`; two units of a surrogate
pair make one character. -/
def escapedChar? (n : Nat) (rest : List Char) : Option (Char × List Char) :=
  if 0xd800 ≤ n ∧ n < 0xdc00 then
    match rest with
    | '\\' :: 'u' :: more =>
      match hex4? more with
      | some (m, after) =>
        if 0xdc00 ≤ m ∧ m < 0xe000 then
          some (Char.ofNat (0x10000 + (n - 0xd800) * 0x400 + (m - 0xdc00)), after)
        else some (unitChar n, rest)
      | none => none
    | _ => some (unitChar n, rest)
  else some (unitChar n, rest)

def simpleEscape? : Char → Option Char
  | '"' => some '"'
  | '\\' => some '\\'
  | '/' => some '/'
  | 'b' => some '\x08'
  | 'f' => some '\x0c'
  | 'n' => some '\n'
  | 'r' => some '\r'
  | 't' => some '\t'
  | _ => none

def string? : Nat → List Char → Option (List Char × List Char)
  | 0, _ => none
  | _ + 1, [] => none
  | fuel + 1, c :: rest =>
    if c = '"' then some ([], rest)
    else if c.toNat < 32 then none
    else if c = '\\' then
      match rest with
      | [] => none
      | e :: after =>
        let escape :=
          if e = 'u' then (hex4? after).bind fun (n, more) => escapedChar? n more
          else (simpleEscape? e).map fun c => (c, after)
        match escape with
        | none => none
        | some (c, more) => (string? fuel more).map fun (cs, left) => (c :: cs, left)
    else (string? fuel rest).map fun (cs, left) => (c :: cs, left)

def fraction? : List Char → Option (List Char × List Char)
  | '.' :: rest =>
    let digits := rest.takeWhile Char.isDigit
    if digits.isEmpty then none else some (digits, rest.dropWhile Char.isDigit)
  | _ => none

def exponent? : List Char → Option (Int × List Char)
  | e :: rest =>
    if e = 'e' ∨ e = 'E' then
      let (negative, more) : Bool × List Char :=
        match rest with
        | '-' :: more => (true, more)
        | '+' :: more => (false, more)
        | more => (false, more)
      let digits := more.takeWhile Char.isDigit
      if digits.isEmpty then none
      else
        let n : Int := numeral 10 digits
        some (if negative then -n else n, more.dropWhile Char.isDigit)
    else none
  | [] => none

def unsigned? (negative : Bool) (text : List Char) : Option (Value × List Char) :=
  let whole : List Char :=
    match text with
    | '0' :: _ => ['0']
    | _ => text.takeWhile Char.isDigit
  if whole.isEmpty then none
  else
    let rest := text.drop whole.length
    let (decimals, rest) := (fraction? rest).getD ([], rest)
    let digits := whole ++ decimals
    match exponent? rest with
    | some (e, rest) =>
      some (.float (.ofDecimal negative (numeral 10 digits) digits.length (e - decimals.length)),
        rest)
    | none =>
      if decimals.isEmpty then
        let n : Int := numeral 10 whole
        some (.int (if negative then -n else n), rest)
      else
        some (.float (.ofDecimal negative (numeral 10 digits) digits.length
          (-(decimals.length : Int))), rest)

def number? (text : List Char) : Option (Value × List Char) :=
  match text with
  | '-' :: rest =>
    match after? "Infinity".toList rest with
    | some after => some (.float (.infinite true), after)
    | none => unsigned? true rest
  | _ => unsigned? false text

def constant? (text : List Char) : Option (Value × List Char) :=
  let constants : List (String × Value) :=
    [("null", .null), ("true", .bool true), ("false", .bool false), ("NaN", .float (.nan true)),
      ("Infinity", .float (.infinite false))]
  constants.findSome? fun (name, v) => (after? name.toList text).map fun rest => (v, rest)

mutual

def value? : Nat → List Char → Option (Value × List Char)
  | 0, _ => none
  | fuel + 1, text =>
    match text with
    | '"' :: rest => (string? (fuel + 1) rest).map fun (cs, left) => (.str (String.ofList cs), left)
    | '[' :: rest =>
      match skip rest with
      | ']' :: left => some (.list [], left)
      | more => (items? fuel more).map fun (vs, left) => (.list vs, left)
    | '{' :: rest =>
      match skip rest with
      | '}' :: left => some (.dict [], left)
      | more => (members? fuel [] more).map fun (es, left) => (.dict es, left)
    | _ =>
      match constant? text with
      | some found => some found
      | none => number? text

def items? : Nat → List Char → Option (List Value × List Char)
  | 0, _ => none
  | fuel + 1, text =>
    match value? fuel text with
    | none => none
    | some (v, rest) =>
      match skip rest with
      | ',' :: more => (items? fuel (skip more)).map fun (vs, left) => (v :: vs, left)
      | ']' :: left => some ([v], left)
      | _ => none

/-- The members of an object up to its closing brace, put after those read before. -/
def members? : Nat → Table Key Value → List Char → Option (Table Key Value × List Char)
  | 0, _, _ => none
  | fuel + 1, before, text =>
    match text with
    | '"' :: rest =>
      match string? (fuel + 1) rest with
      | none => none
      | some (name, rest) =>
        match skip rest with
        | ':' :: rest =>
          match value? fuel (skip rest) with
          | none => none
          | some (v, rest) =>
            let entries := before.put (.name (String.ofList name)) v
            match skip rest with
            | ',' :: more => members? fuel entries (skip more)
            | '}' :: left => some (entries, left)
            | _ => none
        | _ => none
    | _ => none

end

/-- The value that a whole text writes, white space at both ends aside. -/
def read? (text : List Char) : Option Value :=
  match value? (text.length + 1) (skip text) with
  | some (v, rest) => if (skip rest).isEmpty then some v else none
  | none => none

end NextWord.Json
