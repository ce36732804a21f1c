import NextWord.Value.Basic
import NextWord.Value.Json

/-!
# Reading TOML documents

A reader of TOML 1.0 documents: tables, arrays of tables, dotted keys, inline tables, strings of all
four forms, integers in four radixes, floats, dates and times. Of a document that breaks the grammar
nothing is read, and it is not said where it breaks.

Besides the data, the reader keeps two kinds of marks on chains of keys. A frozen chain was written
as an inline value, and nothing may be added at it or below it. An explicit chain was opened as a
table already, or passed by a dotted key in an earlier section, and may not be opened again. Every
reader takes the characters left and returns what it read with those it left in turn; `fuel` bounds
the number of characters.
-/

namespace NextWord.Toml

open Text (after? hexValue? numeral)

def isSpace (c : Char) : Bool :=
  c == ' ' || c == '\t'

def skip (text : List Char) : List Char :=
  text.dropWhile isSpace

/-- Controls that may not stand in a comment or a string of one line. -/
def isIllegal (c : Char) : Bool :=
  (c.toNat < 32 && c != '\t') || c.toNat == 127

/-- Controls that may not stand in a string of several lines. -/
def isIllegalInLines (c : Char) : Bool :=
  isIllegal c && c != '\n'

def isBare (c : Char) : Bool :=
  c.isAlphanum || c == '-' || c == '_'

/-- Writes line breaks of two characters as one. -/
def unixLines : List Char → List Char
  | '\r' :: '\n' :: rest => '\n' :: unixLines rest
  | c :: rest => c :: unixLines rest
  | [] => []

def comment? : List Char → Option (List Char)
  | '#' :: rest =>
    if (rest.takeWhile (· != '\n')).any isIllegal then none
    else some (rest.dropWhile (· != '\n'))
  | text => some text

/-- Drops spaces, line breaks and comments between elements of an array. -/
def skipLines? : Nat → List Char → Option (List Char)
  | 0, text => some text
  | fuel + 1, text =>
    match text.dropWhile fun c => isSpace c || c == '\n' with
    | '#' :: rest =>
      match comment? ('#' :: rest) with
      | some rest => skipLines? fuel rest
      | none => none
    | rest => some rest

def hexChar? (width : Nat) (text : List Char) : Option (Char × List Char) :=
  let digits := text.take width
  if digits.length = width ∧ digits.all Text.isHexDigit then
    let n := numeral 16 digits
    if n < 0xd800 ∨ (0xe000 ≤ n ∧ n < 0x110000) then some (Char.ofNat n, text.drop width) else none
  else none

def simpleEscape? : Char → Option Char
  | 'b' => some '\x08'
  | 't' => some '\t'
  | 'n' => some '\n'
  | 'f' => some '\x0c'
  | 'r' => some '\r'
  | '"' => some '"'
  | '\\' => some '\\'
  | _ => none

/-- The rest behind an escaped line break, spaces in front of it and blank text behind it. -/
def joinedLine? (text : List Char) : Option (List Char) :=
  match skip text with
  | [] => some []
  | '\n' :: rest => some (rest.dropWhile fun c => isSpace c || c == '\n')
  | _ => none

/-- What an escape stands for, the backslash being dropped already. -/
def escape? (inLines : Bool) : List Char → Option (List Char × List Char)
  | [] => none
  | c :: rest =>
    if inLines ∧ (c = ' ' ∨ c = '\t' ∨ c = '\n') then
      (joinedLine? (c :: rest)).map fun left => ([], left)
    else if c = 'u' then (hexChar? 4 rest).map fun (c, left) => ([c], left)
    else if c = 'U' then (hexChar? 8 rest).map fun (c, left) => ([c], left)
    else (simpleEscape? c).map fun c => ([c], rest)

def basicString? (inLines : Bool) : Nat → List Char → Option (List Char × List Char)
  | 0, _ => none
  | _ + 1, [] => none
  | fuel + 1, c :: rest =>
    if c = '"' ∧ !inLines then some ([], rest)
    else if c = '"' ∧ ['"', '"'].isPrefixOf rest then some ([], rest.drop 2)
    else if c = '\\' then
      match escape? inLines rest with
      | none => none
      | some (taken, rest) =>
        (basicString? inLines fuel rest).map fun (cs, left) => (taken ++ cs, left)
    else if (if inLines then isIllegalInLines c else isIllegal c) then none
    else (basicString? inLines fuel rest).map fun (cs, left) => (c :: cs, left)

def literalString? (text : List Char) : Option (List Char × List Char) :=
  let taken := text.takeWhile (· != '\'')
  match text.dropWhile (· != '\'') with
  | [] => none
  | _ :: rest => if taken.any isIllegal then none else some (taken, rest)

def literalLines? : List Char → Option (List Char × List Char)
  | [] => none
  | '\'' :: '\'' :: '\'' :: rest => some ([], rest)
  | c :: rest =>
    if isIllegalInLines c then none
    else (literalLines? rest).map fun (cs, left) => (c :: cs, left)

/-- Up to two more quotation marks at the end of a string of several lines belong to it. -/
def moreMarks (mark : Char) (read : List Char × List Char) : List Char × List Char :=
  match read with
  | (cs, c :: d :: rest) =>
    if c = mark ∧ d = mark then (cs ++ [mark, mark], rest)
    else if c = mark then (cs ++ [mark], d :: rest)
    else read
  | (cs, [c]) => if c = mark then (cs ++ [mark], []) else read
  | _ => read

/-- Drops the line break at the start of a string of several lines. -/
def dropBreak : List Char → List Char
  | '\n' :: rest => rest
  | text => text

def string? (text : List Char) : Option (List Char × List Char) :=
  match text with
  | '"' :: '"' :: '"' :: rest =>
    (basicString? true (text.length + 1) (dropBreak rest)).map (moreMarks '"')
  | '"' :: rest => basicString? false (text.length + 1) rest
  | '\'' :: '\'' :: '\'' :: rest => (literalLines? (dropBreak rest)).map (moreMarks '\'')
  | '\'' :: rest => literalString? rest
  | _ => none

def keyPart? (text : List Char) : Option (String × List Char) :=
  match text with
  | '"' :: rest =>
    (basicString? false (text.length + 1) rest).map fun (cs, left) => (String.ofList cs, left)
  | '\'' :: rest => (literalString? rest).map fun (cs, left) => (String.ofList cs, left)
  | _ =>
    match text.takeWhile isBare with
    | [] => none
    | part => some (String.ofList part, text.dropWhile isBare)

/-- A key of one part or more, separated by dots, with the spaces behind it. -/
def key? : Nat → List Char → Option (List String × List Char)
  | 0, _ => none
  | fuel + 1, text =>
    match keyPart? text with
    | none => none
    | some (part, rest) =>
      match skip rest with
      | '.' :: rest => (key? fuel (skip rest)).map fun (parts, left) => (part :: parts, left)
      | rest => some ([part], rest)

/-- Digits behind a first one, each with at most one underscore in front, which is dropped. -/
def moreDigits (isDigit : Char → Bool) : List Char → List Char × List Char
  | '_' :: c :: rest =>
    if isDigit c then
      let (digits, left) := moreDigits isDigit rest
      (c :: digits, left)
    else ([], '_' :: c :: rest)
  | c :: rest =>
    if isDigit c then
      let (digits, left) := moreDigits isDigit rest
      (c :: digits, left)
    else ([], c :: rest)
  | [] => ([], [])

def digits? (isDigit : Char → Bool) : List Char → Option (List Char × List Char)
  | c :: rest =>
    if isDigit c then
      let (digits, left) := moreDigits isDigit rest
      some (c :: digits, left)
    else none
  | [] => none

/-- The marks of integers that are not decimal, with their radixes. -/
def radixOf? : Char → Option Nat
  | 'x' => some 16
  | 'o' => some 8
  | 'b' => some 2
  | _ => none

def marked? : List Char → Option (Value × List Char)
  | '0' :: mark :: rest =>
    match radixOf? mark with
    | none => none
    | some radix =>
      (digits? (fun c => (hexValue? c).any (· < radix)) rest).map fun (digits, left) =>
        (.int (numeral radix digits), left)
  | _ => none

/-- A sign in front of a number: whether it is negative, and the rest. -/
def sign : List Char → Bool × List Char
  | '-' :: rest => (true, rest)
  | '+' :: rest => (false, rest)
  | text => (false, text)

def whole? : List Char → Option (List Char × List Char)
  | '0' :: rest => some (['0'], rest)
  | text => digits? Char.isDigit text

def fraction? : List Char → Option (List Char × List Char)
  | '.' :: rest => digits? Char.isDigit rest
  | _ => none

def exponent? : List Char → Option (Int × List Char)
  | c :: rest =>
    if c = 'e' ∨ c = 'E' then
      let (negative, rest) := sign rest
      (digits? Char.isDigit rest).map fun (digits, left) =>
        let n : Int := numeral 10 digits
        (if negative then -n else n, left)
    else none
  | [] => none

def decimal? (text : List Char) : Option (Value × List Char) :=
  let (negative, rest) := sign text
  match whole? rest with
  | none => none
  | some (whole, rest) =>
    let fraction := fraction? rest
    let (decimals, rest) := fraction.getD ([], rest)
    let exponent := exponent? rest
    let (e, rest) := exponent.getD (0, rest)
    if fraction.isNone ∧ exponent.isNone then
      let n : Int := numeral 10 whole
      some (.int (if negative then -n else n), rest)
    else
      some (.float (.ofDecimal negative (numeral 10 (whole ++ decimals))
        (whole.length + decimals.length) (e - decimals.length)), rest)

def special? (text : List Char) : Option (Value × List Char) :=
  let (negative, rest) := sign text
  match rest with
  | 'i' :: 'n' :: 'f' :: rest => some (.float (.infinite negative), rest)
  | 'n' :: 'a' :: 'n' :: rest => some (.float (.nan false), rest)
  | _ => none

/-- A number of exactly so many digits, in a range. -/
def field? (width least most : Nat) (text : List Char) : Option (Nat × List Char) :=
  let digits := text.take width
  let n := numeral 10 digits
  if digits.length = width ∧ digits.all Char.isDigit ∧ least ≤ n ∧ n ≤ most then
    some (n, text.drop width)
  else none

/-- A time of day; digits beyond microseconds are dropped with the others of a fraction. -/
def time? (text : List Char) : Option (List Char) := do
  let (_, rest) ← field? 2 0 23 text
  let rest ← after? [':'] rest
  let (_, rest) ← field? 2 0 59 rest
  let rest ← after? [':'] rest
  let (_, rest) ← field? 2 0 59 rest
  match rest with
  | '.' :: c :: more => if c.isDigit then some (more.dropWhile Char.isDigit) else some rest
  | _ => some rest

/-- Drops the offset of a time, if there is one. -/
def offset (text : List Char) : List Char :=
  match text with
  | 'Z' :: rest => rest
  | 'z' :: rest => rest
  | c :: more =>
    let rest? : Option (List Char) := do
      let (_, rest) ← field? 2 0 23 more
      let rest ← after? [':'] rest
      let (_, rest) ← field? 2 0 59 rest
      some rest
    if c = '+' ∨ c = '-' then rest?.getD text else text
  | [] => []

def daysOf (year month : Nat) : Nat :=
  if month = 2 then
    if year % 4 = 0 ∧ (year % 100 ≠ 0 ∨ year % 400 = 0) then 29 else 28
  else if month = 4 ∨ month = 6 ∨ month = 9 ∨ month = 11 then 30
  else 31

def date? (text : List Char) : Option ((Nat × Nat × Nat) × List Char) := do
  let (year, rest) ← field? 4 0 9999 text
  let rest ← after? ['-'] rest
  let (month, rest) ← field? 2 1 12 rest
  let rest ← after? ['-'] rest
  let (day, rest) ← field? 2 1 31 rest
  some ((year, month, day), rest)

/-- What was read between two places of a text. -/
def between (text rest : List Char) : String :=
  String.ofList (text.take (text.length - rest.length))

/-- A date or time at the start of a text, or the news that it is none that exists. -/
def moment? (text : List Char) : Option (Option (Value × List Char)) :=
  match date? text with
  | some ((year, month, day), rest) =>
    if year = 0 ∨ daysOf year month < day then some none
    else
      let timed : Option (List Char) :=
        match rest with
        | c :: more => if c = 'T' ∨ c = 't' ∨ c = ' ' then (time? more).map offset else none
        | [] => none
      match timed with
      | some left => some (some (.moment .dateAndTime (between text left), left))
      | none => some (some (.moment .date (between text rest), rest))
  | none => (time? text).map fun left => some (.moment .time (between text left), left)

def scalar? (text : List Char) : Option (Value × List Char) :=
  match after? "true".toList text, after? "false".toList text with
  | some rest, _ => some (.bool true, rest)
  | none, some rest => some (.bool false, rest)
  | none, none =>
    match moment? text with
    | some found => found
    | none =>
      match marked? text with
      | some found => some found
      | none =>
        match decimal? text with
        | some found => some found
        | none => special? text

/-- Changes the table at the end of a chain of keys, tables being made where there are none. An
array of tables on the way stands for its last table, if that is wanted. -/
def changeAt (throughLists : Bool) (change : Entries → Option Entries) :
    List String → Entries → Option Entries
  | [], entries => change entries
  | key :: keys, entries =>
    match entries.find? key with
    | none =>
      (changeAt throughLists change keys []).map fun inner =>
        entries.put key (Value.ofEntries inner)
    | some (.dict inner) =>
      (changeAt throughLists change keys (Value.namedEntries inner)).map fun inner =>
        entries.put key (Value.ofEntries inner)
    | some (.list items) =>
      match throughLists, items.reverse with
      | true, .dict inner :: before =>
        (changeAt throughLists change keys (Value.namedEntries inner)).map fun inner =>
          entries.put key (.list (Value.ofEntries inner :: before).reverse)
      | _, _ => none
    | some _ => none

def putNew (key : String) (v : Value) (entries : Entries) : Option Entries :=
  if entries.has key then none else some (entries.put key v)

def isNested : Value → Bool
  | .list _ => true
  | .dict _ => true
  | _ => false

/-- Whether one of the chains leads to a key or to a table around it. -/
def coversAny (chains : List (List String)) (key : List String) : Bool :=
  chains.any fun chain => chain.isPrefixOf key

mutual

def value? : Nat → List Char → Option (Value × List Char)
  | 0, _ => none
  | fuel + 1, text =>
    match text with
    | '"' :: _ => (string? text).map fun (cs, left) => (.str (String.ofList cs), left)
    | '\'' :: _ => (string? text).map fun (cs, left) => (.str (String.ofList cs), left)
    | '[' :: rest =>
      match skipLines? text.length rest with
      | none => none
      | some (']' :: left) => some (.list [], left)
      | some rest => (elements? fuel rest).map fun (vs, left) => (.list vs, left)
    | '\x7b' :: rest =>
      match skip rest with
      | '\x7d' :: left => some (.dict [], left)
      | rest => (inline? fuel [] [] rest).map fun (entries, left) => (Value.ofEntries entries, left)
    | _ => scalar? text

def elements? : Nat → List Char → Option (List Value × List Char)
  | 0, _ => none
  | fuel + 1, text =>
    match value? fuel text with
    | none => none
    | some (v, rest) =>
      match skipLines? rest.length rest with
      | some (']' :: left) => some ([v], left)
      | some (',' :: rest) =>
        match skipLines? rest.length rest with
        | none => none
        | some (']' :: left) => some ([v], left)
        | some rest => (elements? fuel rest).map fun (vs, left) => (v :: vs, left)
      | _ => none

/-- The entries of an inline table up to its closing brace, behind those read before; chains of
values with inner structure are frozen. -/
def inline? : Nat → Entries → List (List String) → List Char → Option (Entries × List Char)
  | 0, _, _, _ => none
  | fuel + 1, entries, frozen, text =>
    match pair? fuel text with
    | none => none
    | some (key, v, rest) =>
      if coversAny frozen key then none
      else
        match changeAt false (putNew (key.getLast?.getD "") v) key.dropLast entries with
        | none => none
        | some entries =>
          match skip rest with
          | '\x7d' :: left => some (entries, left)
          | ',' :: rest =>
            inline? fuel entries (if isNested v then key :: frozen else frozen) (skip rest)
          | _ => none

def pair? : Nat → List Char → Option (List String × Value × List Char)
  | 0, _ => none
  | fuel + 1, text =>
    match key? (text.length + 1) text with
    | some (key, '=' :: rest) =>
      (value? fuel (skip rest)).map fun (v, left) => (key, v, left)
    | _ => none

end

/-- A document read so far: its data, the marks on chains of keys, and the open table. -/
structure Document where
  data : Entries := []
  frozen : List (List String) := []
  explicit : List (List String) := []
  /-- Chains that dotted keys passed in the section being read. -/
  passed : List (List String) := []
  open_ : List String := []

namespace Document

/-- Marks the chains passed by dotted keys, at the end of a section. -/
def endSection (d : Document) : Document :=
  { d with explicit := d.explicit ++ d.passed, passed := [] }

def openTable? (d : Document) (key : List String) : Option Document :=
  if d.explicit.contains key || coversAny d.frozen key then none
  else (changeAt true some key d.data).map fun data =>
    { d with data := data, explicit := d.explicit ++ [key], open_ := key }

def appendTable (key : String) (entries : Entries) : Option Entries :=
  match entries.find? key with
  | none => some (entries.put key (.list [.dict []]))
  | some (.list items) => some (entries.put key (.list (items ++ [.dict []])))
  | some _ => none

def openElement? (d : Document) (key : List String) : Option Document :=
  if coversAny d.frozen key then none
  else (changeAt true (appendTable (key.getLast?.getD "")) key.dropLast d.data).map fun data =>
    { d with
      data := data
      frozen := d.frozen.filter fun chain => !key.isPrefixOf chain
      explicit := (d.explicit.filter fun chain => !key.isPrefixOf chain) ++ [key]
      open_ := key }

/-- The chains of the proper beginnings of a dotted key in the open table. -/
def passedBy (d : Document) (key : List String) : List (List String) :=
  (List.range key.length).tail.map fun n => d.open_ ++ key.take n

def put? (d : Document) (key : List String) (v : Value) : Option Document :=
  let passed := d.passedBy key
  let parent := d.open_ ++ key.dropLast
  if passed.any d.explicit.contains then none
  else if parent ≠ [] ∧ coversAny d.frozen parent then none
  else (changeAt true (putNew (key.getLast?.getD "") v) parent d.data).map fun data =>
    { d with
      data := data
      passed := d.passed ++ passed
      frozen := if isNested v then d.frozen ++ [d.open_ ++ key] else d.frozen }

end Document

def statement? (d : Document) (text : List Char) : Option (Document × List Char) :=
  match text with
  | '[' :: '[' :: rest =>
    match key? text.length (skip rest) with
    | some (key, ']' :: ']' :: rest) =>
      (d.endSection.openElement? key).map fun d => (d, skip rest)
    | _ => none
  | '[' :: rest =>
    match key? text.length (skip rest) with
    | some (key, ']' :: rest) => (d.endSection.openTable? key).map fun d => (d, skip rest)
    | _ => none
  | '#' :: _ => some (d, text)
  | _ =>
    match pair? (2 * text.length + 2) text with
    | some (key, v, rest) => (d.put? key v).map fun d => (d, skip rest)
    | none => none

def statements? : Nat → Document → List Char → Option Document
  | 0, d, _ => some d
  | fuel + 1, d, text =>
    match skip text with
    | [] => some d
    | '\n' :: rest => statements? fuel d rest
    | text =>
      match statement? d text with
      | none => none
      | some (d, rest) =>
        match comment? rest with
        | none => none
        | some [] => some d
        | some ('\n' :: rest) => statements? fuel d rest
        | some _ => none

def read? (text : List Char) : Option Entries :=
  (statements? (text.length + 1) {} (unixLines text)).map Document.data

end NextWord.Toml
