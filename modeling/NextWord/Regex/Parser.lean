import NextWord.Regex.Item
import NextWord.Text.CharName.Lookup
import NextWord.Text.Identifier
import NextWord.Text.WholeNumber

/-!
# Reading regular expressions

The text of an expression is first cut into tokens, a backslash and the character behind it making
one. The reader then builds alternatives, sequences and their items. It keeps what it needs to know
about groups: their widths once they are closed, their names, and those that a condition on
preceding text may not mention.

A text is invalid for one of two reasons: it breaks the grammar, or it asks for a number of rounds
that is too large to count. Options for the whole expression must stand at its very start, before
any anchor; since every expression read here starts with an anchor, they count as invalid.
-/

namespace NextWord.Regex

open Text (isHexDigit numeral)

inductive Fault
  | malformed
  | tooManyRounds
  deriving DecidableEq, Repr

/-- A character of the text, or one behind a backslash. -/
inductive Token
  | plain (c : Char)
  | escaped (c : Char)
  deriving DecidableEq, Repr

/-- Cuts a text into tokens; a backslash at its end is malformed. -/
def tokens? : List Char → Option (List Token)
  | [] => some []
  | ['\\'] => none
  | '\\' :: c :: rest => (tokens? rest).map (Token.escaped c :: ·)
  | c :: rest => (tokens? rest).map (Token.plain c :: ·)

/-- The number of rounds that is too large to count. Preceding text is not looked back on by so many
characters either. -/
def roundsLimit : Nat := 4294967295

structure Groups where
  /-- Widths by number, the whole expression counting as group nought; `none` while open. -/
  widths : List (Option Width) := [none]
  names : List (List Char × Nat) := []
  /-- The first group that the preceding-text condition being read may not mention. -/
  behindFrom : Option Nat := none
  /-- Numbers that conditions mention, to be checked at the end. -/
  mentioned : List Nat := []
  /-- Whether every condition on preceding text has a fixed width, to be checked at the end. -/
  behindFits : Bool := true

namespace Groups

def count (g : Groups) : Nat :=
  g.widths.length

def closed? (g : Groups) (n : Nat) : Option Width :=
  (g.widths[n]?).join

def start? (g : Groups) (name : Option (List Char)) : Option Groups :=
  match name with
  | none => some { g with widths := g.widths ++ [none] }
  | some name =>
    if (g.names.lookup name).isSome then none
    else some { g with widths := g.widths ++ [none], names := g.names ++ [(name, g.count)] }

def close (g : Groups) (n : Nat) (w : Width) : Groups :=
  { g with widths := g.widths.set n (some w) }

def mayMention (g : Groups) (n : Nat) : Bool :=
  match g.behindFrom with
  | none => true
  | some first => (g.closed? n).isSome && n < first

end Groups

/-- What kind of piece the last one of a sequence is, for the rules on repetition. -/
inductive PieceKind
  | anchor
  | repeated
  | other
  deriving DecidableEq

/-- A piece of a sequence: what repetition applies to as a whole. A group that only brackets its
items is one piece; every other piece is one item. -/
structure Piece where
  items : List Item
  kind : PieceKind := .other

def Piece.single (node : Regex) (width : Width) (kind : PieceKind := .other) : Piece :=
  ⟨[⟨node, width, false⟩], kind⟩

def Piece.repeated (greed : Greed) (least : Nat) (most : Option Nat) (piece : Piece) : Piece :=
  .single (Regex.repeated greed least most (sequence piece.items))
    ((sequenceWidth piece.items).times least most) .repeated

/-- A number written in digits of one radix, at most `count` of them. -/
def takeDigits (isDigit : Char → Bool) : Nat → List Token → List Char × List Token
  | count + 1, .plain c :: rest =>
    if isDigit c then
      let (digits, left) := takeDigits isDigit count rest
      (c :: digits, left)
    else ([], .plain c :: rest)
  | _, rest => ([], rest)

def isOctalDigit (c : Char) : Bool :=
  '0' ≤ c && c ≤ '7'

/-- The code point of an escape in hexadecimal, `width` digits wide. -/
def hexCode? (width : Nat) (rest : List Token) : Option (Nat × List Token) :=
  let (digits, left) := takeDigits isHexDigit width rest
  if digits.length = width ∧ numeral 16 digits < 0x110000 then some (numeral 16 digits, left)
  else none

/-- The class of an escape, and whether its complement is meant. -/
def classEscape? : Char → Option SetItem
  | 'd' => some (.ofClass .digit false)
  | 'D' => some (.ofClass .digit true)
  | 's' => some (.ofClass .space false)
  | 'S' => some (.ofClass .space true)
  | 'w' => some (.ofClass .word false)
  | 'W' => some (.ofClass .word true)
  | _ => none

def controlEscape? : Char → Option Nat
  | 'a' => some 7
  | 'f' => some 12
  | 'n' => some 10
  | 'r' => some 13
  | 't' => some 9
  | 'v' => some 11
  | '\\' => some 92
  | _ => none

/-- The text up to a mark, and what follows the mark. An escaped character belongs to no name. -/
def nameUpTo? (mark : Char) : List Token → Option (List Char × List Token)
  | [] => none
  | .escaped _ :: _ => none
  | .plain c :: rest =>
    if c = mark then some ([], rest)
    else (nameUpTo? mark rest).map fun (name, left) => (c :: name, left)

def namedCode? : List Token → Option (Nat × List Token)
  | .plain '\x7b' :: rest =>
    match nameUpTo? '\x7d' rest with
    | some (name, left) => (Text.CharName.codePoint? name).map fun n => (n, left)
    | none => none
  | _ => none

/-- The code point of an escape by number or name, or of a character that stands for itself. -/
def codeEscape? (c : Char) (rest : List Token) : Option (Nat × List Token) :=
  if c = 'x' then hexCode? 2 rest
  else if c = 'u' then hexCode? 4 rest
  else if c = 'U' then hexCode? 8 rest
  else if c = 'N' then namedCode? rest
  else if c.isAlphanum then none
  else some (c.toNat, rest)

def setEscape? (c : Char) (rest : List Token) : Option (SetItem × List Token) :=
  if c = 'b' then some (.code 8, rest)
  else match controlEscape? c, classEscape? c with
    | some n, _ => some (.code n, rest)
    | none, some item => some (item, rest)
    | none, none =>
      if isOctalDigit c then
        let (digits, left) := takeDigits isOctalDigit 2 rest
        let n := numeral 8 (c :: digits)
        if n ≤ 0o377 then some (.code n, left) else none
      else (codeEscape? c rest).map fun (n, left) => (.code n, left)

def setMember? : List Token → Option (SetItem × List Token)
  | .plain c :: rest => some (.code c.toNat, rest)
  | .escaped c :: rest => setEscape? c rest
  | [] => none

/-- The members of a set up to its closing bracket; a closing bracket that comes first is a member.
`fuel` bounds the number of tokens. -/
def setMembers? : Nat → Bool → List Token → Option (List SetItem × List Token)
  | 0, _, _ => none
  | fuel + 1, first, text =>
    match first, text with
    | false, .plain ']' :: rest => some ([], rest)
    | _, _ =>
      match setMember? text with
      | none => none
      | some (low, .plain '-' :: .plain ']' :: rest) => some ([low, .code '-'.toNat], rest)
      | some (low, .plain '-' :: rest) =>
        match low, setMember? rest with
        | .code m, some (.code n, rest) =>
          if m ≤ n then
            (setMembers? fuel false rest).map fun (items, left) => (.range m n :: items, left)
          else none
        | _, _ => none
      | some (item, rest) =>
        (setMembers? fuel false rest).map fun (items, left) => (item :: items, left)

def set? (options : RegexOptions) (text : List Token) : Option (CharTest × List Token) :=
  let (complement, text) : Bool × List Token :=
    match text with
    | .plain '^' :: rest => (true, rest)
    | _ => (false, text)
  (setMembers? (text.length + 1) true text).map fun (items, left) =>
    (CharTest.ofItems options complement items, left)

def testPiece (test : CharTest) : Piece :=
  .single (.one test) Width.one

def codePiece (options : RegexOptions) (n : Nat) : Piece :=
  testPiece (CharTest.ofCode options false n)

def anchorPiece (a : Anchor) : Piece :=
  .single (.anchor a) Width.zero .anchor

def groupPiece? (options : RegexOptions) (g : Groups) (n : Nat) : Option Piece :=
  match g.closed? n with
  | some w => if g.mayMention n then some (.single (.groupText n options.folding) w) else none
  | none => none

/-- An escape that starts with a digit: three octal digits, or nought with up to two of them, write
a code point, other digits a group. -/
def digitEscape? (options : RegexOptions) (g : Groups) (c : Char) (rest : List Token) :
    Option (Piece × List Token) :=
  if c = '0' then
    let (digits, left) := takeDigits isOctalDigit 2 rest
    some (codePiece options (numeral 8 digits), left)
  else
    match takeDigits Char.isDigit 1 rest with
    | ([d], rest') =>
      match takeDigits isOctalDigit 1 rest' with
      | ([e], left) =>
        if isOctalDigit c ∧ isOctalDigit d then
          let n := numeral 8 [c, d, e]
          if n ≤ 0o377 then some (codePiece options n, left) else none
        else (groupPiece? options g (numeral 10 [c, d])).map fun piece => (piece, rest')
      | _ => (groupPiece? options g (numeral 10 [c, d])).map fun piece => (piece, rest')
    | _ => (groupPiece? options g (numeral 10 [c])).map fun piece => (piece, rest)

def escape? (options : RegexOptions) (g : Groups) (c : Char) (rest : List Token) :
    Option (Piece × List Token) :=
  if c = 'A' then some (anchorPiece .textStart, rest)
  else if c = 'Z' then some (anchorPiece .textEnd, rest)
  else if c = 'b' then some (anchorPiece (.wordEdge options.asciiOnly), rest)
  else if c = 'B' then some (anchorPiece (.notWordEdge options.asciiOnly), rest)
  else match classEscape? c, controlEscape? c with
    | some item, _ => some (testPiece (CharTest.ofItems options false [item]), rest)
    | none, some n => some (codePiece options n, rest)
    | none, none =>
      if c.isDigit then digitEscape? options g c rest
      else (codeEscape? c rest).map fun (n, left) => (codePiece options n, left)

/-- The bounds of a repetition in braces, behind the opening one: `none` when it is none and the
brace stands for itself. -/
def bounds? (text : List Token) : Option (List Char × List Char × List Token) :=
  match text with
  | .plain '}' :: _ => none
  | _ =>
    let (low, rest) := takeDigits Char.isDigit text.length text
    match rest with
    | .plain ',' :: rest =>
      let (high, rest) := takeDigits Char.isDigit rest.length rest
      match rest with
      | .plain '}' :: rest => some (low, high, rest)
      | _ => none
    | .plain '}' :: rest => some (low, low, rest)
    | _ => none

inductive Quantifier
  | rounds (least : Nat) (most : Option Nat) (rest : List Token)
  | brace
  | fault (f : Fault)

def quantifier (c : Char) (rest : List Token) : Quantifier :=
  if c = '*' then .rounds 0 none rest
  else if c = '+' then .rounds 1 none rest
  else if c = '?' then .rounds 0 (some 1) rest
  else match bounds? rest with
    | none => .brace
    | some (low, high, rest) =>
      let least := numeral 10 low
      if roundsLimit ≤ least then .fault .tooManyRounds
      else if high.isEmpty then .rounds least none rest
      else
        let most := numeral 10 high
        if roundsLimit ≤ most then .fault .tooManyRounds
        else if most < least then .fault .malformed
        else .rounds least (some most) rest

def greed : List Token → Greed × List Token
  | .plain '?' :: rest => (.lazy, rest)
  | .plain '+' :: rest => (.possessive, rest)
  | rest => (.greedy, rest)

/-- The number of a group that a condition mentions by a name or by a number; a number may stand for
a group that is yet to come. -/
def mentioned? (g : Groups) (name : List Char) : Option (Nat × Bool) :=
  if Text.isIdentifier name then (g.names.lookup name).map fun n => (n, false)
  else match Text.wholeNumber? name with
    | some (.ofNat (n + 1)) => some (n + 1, true)
    | _ => none

def afterComment? : List Token → Option (List Token)
  | [] => none
  | .plain ')' :: rest => some rest
  | _ :: rest => afterComment? rest

def afterLine : List Token → List Token
  | [] => []
  | .plain '\n' :: rest => rest
  | _ :: rest => afterLine rest

def isVerboseSpace (c : Char) : Bool :=
  (9 ≤ c.toNat && c.toNat ≤ 13) || c == ' '

structure OptionLetters where
  i : Bool := false
  m : Bool := false
  s : Bool := false
  x : Bool := false
  a : Bool := false
  u : Bool := false

/-- Records an option letter; `none` if there is no such option for text. -/
def OptionLetters.add? (o : OptionLetters) : Char → Option OptionLetters
  | 'i' => some { o with i := true }
  | 'm' => some { o with m := true }
  | 's' => some { o with s := true }
  | 'x' => some { o with x := true }
  | 'a' => if o.u then none else some { o with a := true }
  | 'u' => if o.a then none else some { o with u := true }
  | _ => none

def optionLetters? (ends : List Char) :
    OptionLetters → List Token → Option (OptionLetters × Char × List Token)
  | o, .plain c :: rest =>
    if ends.contains c then some (o, c, rest)
    else match o.add? c with
      | some o => optionLetters? ends o rest
      | none => none
  | _, _ => none

/-- Options turned on and off together contradict each other. -/
def OptionLetters.meets (o p : OptionLetters) : Bool :=
  (o.i && p.i) || (o.m && p.m) || (o.s && p.s) || (o.x && p.x)

/-- The options inside a group that turns some on and others off. -/
def changeOptions (options : RegexOptions) (on off : OptionLetters) : RegexOptions :=
  { ignoreCase := (options.ignoreCase || on.i) && !off.i
    multiline := (options.multiline || on.m) && !off.m
    dotAll := (options.dotAll || on.s) && !off.s
    verbose := (options.verbose || on.x) && !off.x
    asciiOnly := if on.a then true else if on.u then false else options.asciiOnly }

/-- The options that a group states, from the first letter on up to the colon behind them. -/
def optionChange? (options : RegexOptions) (text : List Token) :
    Option (RegexOptions × List Token) :=
  match optionLetters? [':', '-', ')'] {} text with
  | some (on, ':', rest) => some (changeOptions options on {}, rest)
  | some (on, '-', rest) =>
    match rest with
    | .plain ':' :: _ => none
    | _ =>
      match optionLetters? [':'] {} rest with
      | some (off, _, rest) =>
        if off.a || off.u || on.meets off then none else some (changeOptions options on off, rest)
      | none => none
  | _ => none

inductive Opening
  | comment (rest : List Token)
  | reference (n : Nat) (rest : List Token)
  | group (name : Option (List Char)) (rest : List Token)
  | plain (rest : List Token)
  | withOptions (options : RegexOptions) (rest : List Token)
  | atomic (rest : List Token)
  | ahead (positive : Bool) (rest : List Token)
  | behind (positive : Bool) (rest : List Token)
  | ifGroup (n : Nat) (numbered : Bool) (rest : List Token)

def opening? (options : RegexOptions) (g : Groups) : List Token → Option Opening
  | .plain '?' :: .plain 'P' :: .plain '<' :: rest =>
    match nameUpTo? '>' rest with
    | some (name, rest) => if Text.isIdentifier name then some (.group (some name) rest) else none
    | none => none
  | .plain '?' :: .plain 'P' :: .plain '=' :: rest =>
    match nameUpTo? ')' rest with
    | some (name, rest) => (g.names.lookup name).map fun n => .reference n rest
    | none => none
  | .plain '?' :: .plain ':' :: rest => some (.plain rest)
  | .plain '?' :: .plain '#' :: rest => (afterComment? rest).map .comment
  | .plain '?' :: .plain '=' :: rest => some (.ahead true rest)
  | .plain '?' :: .plain '!' :: rest => some (.ahead false rest)
  | .plain '?' :: .plain '<' :: .plain '=' :: rest => some (.behind true rest)
  | .plain '?' :: .plain '<' :: .plain '!' :: rest => some (.behind false rest)
  | .plain '?' :: .plain '>' :: rest => some (.atomic rest)
  | .plain '?' :: .plain '(' :: rest =>
    match nameUpTo? ')' rest with
    | some (name, rest) => (mentioned? g name).map fun (n, numbered) => .ifGroup n numbered rest
    | none => none
  | .plain '?' :: rest => (optionChange? options rest).map fun (o, rest) => .withOptions o rest
  | rest => some (.group none rest)

def orMalformed {α : Type} : Option α → Except Fault α
  | some a => .ok a
  | none => .error .malformed

def closing? : List Token → Except Fault (List Token)
  | .plain ')' :: rest => .ok rest
  | _ => .error .malformed

mutual

/-- Alternatives, up to a closing parenthesis or the end, as the items of one sequence. -/
def alternatives : Nat → RegexOptions → Groups → List Token →
    Except Fault (List Item × Groups × List Token)
  | 0, _, _, _ => .error .malformed
  | fuel + 1, options, g, text => do
    let (first, g, rest) ← items fuel options g [] text
    let (others, g, rest) ← moreAlternatives fuel options g rest
    pure (alternativeItems options first others, g, rest)

def moreAlternatives : Nat → RegexOptions → Groups → List Token →
    Except Fault (List (List Item) × Groups × List Token)
  | 0, _, _, _ => .error .malformed
  | fuel + 1, options, g, text =>
    match text with
    | .plain '|' :: rest => do
      let (next, g, rest) ← items fuel options g [] rest
      let (others, g, rest) ← moreAlternatives fuel options g rest
      pure (next :: others, g, rest)
    | rest => pure ([], g, rest)

/-- The items of a sequence behind the pieces read `before`, which are in reverse. -/
def items : Nat → RegexOptions → Groups → List Piece → List Token →
    Except Fault (List Item × Groups × List Token)
  | 0, _, _, _, _ => .error .malformed
  | fuel + 1, options, g, before, text =>
    match text with
    | [] => pure (before.reverse.flatMap Piece.items, g, [])
    | .plain '|' :: _ => pure (before.reverse.flatMap Piece.items, g, text)
    | .plain ')' :: _ => pure (before.reverse.flatMap Piece.items, g, text)
    | .escaped c :: rest => do
      let (piece, rest) ← orMalformed (escape? options g c rest)
      items fuel options g (piece :: before) rest
    | .plain '[' :: rest => do
      let (test, rest) ← orMalformed (set? options rest)
      items fuel options g (testPiece test :: before) rest
    | .plain '(' :: rest => do
      let opening ← orMalformed (opening? options g rest)
      let (piece, g, rest) ← parenthesis fuel options g opening
      items fuel options g (piece.toList ++ before) rest
    | .plain '^' :: rest =>
      items fuel options g (anchorPiece (.start options.multiline) :: before) rest
    | .plain '$' :: rest =>
      items fuel options g (anchorPiece (.finish options.multiline) :: before) rest
    | .plain '.' :: rest =>
      items fuel options g (testPiece (if options.dotAll then .any else .notLineFeed) :: before) rest
    | .plain c :: rest =>
      if options.verbose ∧ isVerboseSpace c then items fuel options g before rest
      else if options.verbose ∧ c = '#' then items fuel options g before (afterLine rest)
      else if c = '*' ∨ c = '+' ∨ c = '?' ∨ c = '{' then
        match quantifier c rest with
        | .brace => items fuel options g (codePiece options c.toNat :: before) rest
        | .fault f => .error f
        | .rounds least most rest =>
          match before with
          | [] => .error .malformed
          | piece :: before =>
            if piece.kind = .other then
              let (mode, rest) := greed rest
              items fuel options g (piece.repeated mode least most :: before) rest
            else .error .malformed
      else items fuel options g (codePiece options c.toNat :: before) rest

/-- The piece that a parenthesis opens, none for a comment. -/
def parenthesis : Nat → RegexOptions → Groups → Opening →
    Except Fault (Option Piece × Groups × List Token)
  | 0, _, _, _ => .error .malformed
  | fuel + 1, options, g, opening =>
    match opening with
    | .comment rest => pure (none, g, rest)
    | .reference n rest => do
      let piece ← orMalformed (groupPiece? options g n)
      pure (some piece, g, rest)
    | .group name rest => do
      let n := g.count
      let g ← orMalformed (g.start? name)
      let (body, g, rest) ← alternatives fuel options g rest
      let rest ← closing? rest
      let width := sequenceWidth body
      pure (some (.single (.group n (sequence body)) width), g.close n width, rest)
    | .plain rest => do
      let (body, g, rest) ← alternatives fuel options g rest
      let rest ← closing? rest
      pure (some ⟨body, .other⟩, g, rest)
    | .withOptions inner rest => do
      let (body, g, rest) ← alternatives fuel inner g rest
      let rest ← closing? rest
      pure (some ⟨[⟨sequence body, sequenceWidth body, true⟩], .other⟩, g, rest)
    | .atomic rest => do
      let (body, g, rest) ← alternatives fuel options g rest
      let rest ← closing? rest
      pure (some (.single (.atomic (sequence body)) (sequenceWidth body)), g, rest)
    | .ahead positive rest => do
      let (body, g, rest) ← alternatives fuel options g rest
      let rest ← closing? rest
      pure (some (.single (.ahead positive (sequence body)) Width.zero), g, rest)
    | .behind positive rest => do
      let outer := g.behindFrom
      let g := { g with behindFrom := some (outer.getD g.count) }
      let (body, g, rest) ← alternatives fuel options g rest
      let width := sequenceWidth body
      let fits := width.least == width.most && width.most < roundsLimit
      let g := { g with behindFrom := outer, behindFits := g.behindFits && fits }
      let rest ← closing? rest
      pure (some (.single (.behind positive width.least (sequence body)) Width.zero), g, rest)
    | .ifGroup n numbered rest => do
      let g := if numbered then { g with mentioned := n :: g.mentioned } else g
      if !g.mayMention n then .error .malformed
      else
        let (yes, g, rest) ← items fuel options g [] rest
        match rest with
        | .plain '|' :: rest =>
          let (no, g, rest) ← items fuel options g [] rest
          let rest ← closing? rest
          pure (some (.single (.ifGroup n (sequence yes) (sequence no))
            ((sequenceWidth yes).orElse (sequenceWidth no))), g, rest)
        | rest =>
          let rest ← closing? rest
          pure (some (.single (.ifGroup n (sequence yes) .empty)
            ⟨0, (sequenceWidth yes).most⟩), g, rest)

end

/-- A whole expression, with the least number of characters that it takes. -/
structure Expression where
  body : Regex
  least : Nat
  deriving DecidableEq, Repr

def parse (text : List Char) : Except Fault Expression :=
  match tokens? text with
  | none => .error .malformed
  | some tokens =>
    match alternatives (3 * tokens.length + 10) {} {} tokens with
    | .error f => .error f
    | .ok (items, g, []) =>
      if g.behindFits && g.mentioned.all (· < g.count) then
        .ok ⟨sequence items, (sequenceWidth items).least⟩
      else .error .malformed
    | .ok _ => .error .malformed

def ofText? (text : List Char) : Option Expression :=
  (parse text).toOption

end NextWord.Regex
