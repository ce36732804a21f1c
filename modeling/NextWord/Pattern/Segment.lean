import NextWord.Regex.Parser
import NextWord.Text.Quoted

/-!
# Pattern keys and their segments

A pattern key is an anchored expression `^…$` written as a flat sequence of segments: runs of plain
characters, escaped punctuation, character classes with an optional repetition, and groups that hold
no other group. A bare dot is refused, since in a path it is nearly always a forgotten escape; so
are alternatives outside a group and repeated groups. In addition every prefix of the key that ends
with a segment has to be a valid expression by itself.

Each reader takes the text left, together with its offset in the key for messages, and returns what
it took with the text behind it. Anchors delimit the text, so readers see only what is between them.
-/

namespace NextWord

inductive SegmentKind
  | caret
  | dollar
  | literal
  | escapedMeta
  | charClass
  | capture
  deriving DecidableEq, Repr

/-- A segment of a pattern key: its source, and the text it stands for if it is fixed. -/
structure Segment where
  kind : SegmentKind
  source : List Char
  literal : List Char := []
  deriving DecidableEq, Repr

/-- What is wrong with a pattern key; offsets count characters from its start. -/
inductive PatternFault
  | unanchored
  | escapedEnd
  | malformedQuantifier (offset : Nat)
  | unterminatedClass (offset : Nat)
  | unterminatedGroup (offset : Nat)
  | nestedGroup (offset : Nat)
  | bareDot
  | danglingEscape
  | unsupportedEscape (c : Char)
  | quantifiedEscape (offset : Nat)
  | quantifiedGroup
  | alternation
  | unexpected (c : Char) (offset : Nat)
  | strayQuantifier (offset : Nat)
  | invalidPrefix (text : List Char)
  | tooManyRounds
  deriving DecidableEq, Repr

namespace PatternFault

def message (pattern : String) : PatternFault → String
  | .unanchored => s!"regex needs to start with a ^ and end with a $, not: {pattern}"
  | .escapedEnd => s!"regex needs to end with an unescaped $: {pattern}"
  | .malformedQuantifier offset => s!"malformed quantifier at offset {offset} in {pattern}"
  | .unterminatedClass offset => s!"unterminated character class at offset {offset} in {pattern}"
  | .unterminatedGroup offset => s!"unterminated group at offset {offset} in {pattern}"
  | .nestedGroup offset => s!"nested group at offset {offset} in {pattern}"
  | .bareDot => s!"regex can't use a bare dot, it should probably be escaped: {pattern}"
  | .danglingEscape => s!"dangling escape in {pattern}"
  | .unsupportedEscape c => s!"unsupported escape \\" ++ s!"{c} in {pattern}"
  | .quantifiedEscape offset =>
    s!"quantified escape at offset {offset} is not supported: {pattern}"
  | .quantifiedGroup => s!"quantified group is not a plain concatenation: {pattern}"
  | .alternation => s!"top-level alternation is not supported: {pattern}"
  | .unexpected c offset =>
    "unexpected " ++ Text.quotedChar c ++ s!" at offset {offset} in {pattern}"
  | .strayQuantifier offset =>
    s!"quantifier at offset {offset} does not apply to a class or group: {pattern}"
  | .invalidPrefix text =>
    "couldn't compile regex prefix " ++ String.ofList (Text.quote text)
  | .tooManyRounds => "the repetition number is too large"

end PatternFault

namespace Segment

def isVariable (s : Segment) : Bool :=
  s.kind == .capture || s.kind == .charClass

def caret : Segment := ⟨.caret, ['^'], []⟩

def dollar : Segment := ⟨.dollar, ['$'], []⟩

def plain (text : List Char) : Segment := ⟨.literal, text, text⟩

end Segment

namespace Pattern

def isQuantifier (c : Char) : Bool :=
  c == '*' || c == '+' || c == '?' || c == '\x7b'

theorem isQuantifier_iff {c : Char} :
    isQuantifier c = true ↔ c = '*' ∨ c = '+' ∨ c = '?' ∨ c = '\x7b' := by
  simp only [isQuantifier, Bool.or_eq_true, beq_iff_eq, or_assoc]

def isPlain (c : Char) : Bool :=
  !(c == '\\' || c == '[' || c == '(' || c == '.' || c == '|' || c == '^' || c == '$' || c == ')' ||
    isQuantifier c)

/-- The bounds in braces: digits and at most one comma. -/
def isBounds (content : List Char) : Bool :=
  content.all (fun c => Text.isDigit c || c == ',') && content.count ',' ≤ 1

def takeGreed : List Char → List Char × List Char
  | c :: rest => if c = '?' ∨ c = '+' then ([c], rest) else ([], c :: rest)
  | [] => ([], [])

def takeQuantifier (offset : Nat) (text : List Char) :
    Except PatternFault (List Char × List Char) :=
  match text with
  | [] => .ok ([], [])
  | c :: rest =>
    if !isQuantifier c then .ok ([], text)
    else if c = '\x7b' then
      let content := rest.takeWhile (· != '\x7d')
      match rest.dropWhile (· != '\x7d') with
      | [] => .error (.malformedQuantifier offset)
      | close :: rest =>
        if isBounds content then
          let (greed, rest) := takeGreed rest
          .ok (c :: content ++ close :: greed, rest)
        else .error (.malformedQuantifier offset)
    else
      let (greed, rest) := takeGreed rest
      .ok (c :: greed, rest)

def takeMembers? : List Char → Option (List Char × List Char)
  | [] => none
  | ['\\'] => none
  | '\\' :: c :: rest => (takeMembers? rest).map fun (taken, rest) => ('\\' :: c :: taken, rest)
  | c :: rest =>
    if c = ']' then some ([c], rest)
    else (takeMembers? rest).map fun (taken, rest) => (c :: taken, rest)

/-- Takes a closing bracket that comes first in a class and is a member of it. -/
def takeFirstMember? : List Char → Option (List Char × List Char)
  | ']' :: rest => (takeMembers? rest).map fun (taken, rest) => (']' :: taken, rest)
  | text => takeMembers? text

def takeClass? : List Char → Option (List Char × List Char)
  | '^' :: rest => (takeFirstMember? rest).map fun (taken, rest) => ('^' :: taken, rest)
  | text => takeFirstMember? text

def prepend (c : Char) : Except PatternFault (List Char × List Char) →
    Except PatternFault (List Char × List Char)
  | .ok (taken, rest) => .ok (c :: taken, rest)
  | .error fault => .error fault

/-- Takes the rest of a group that opened at `start`, with its closing parenthesis. `skip` counts
the characters that belong to an escape or a class already read. -/
def takeGroup (start : Nat) : Nat → Nat → List Char → Except PatternFault (List Char × List Char)
  | _, _, [] => .error (.unterminatedGroup start)
  | skip + 1, offset, c :: rest => prepend c (takeGroup start skip (offset + 1) rest)
  | 0, offset, c :: rest =>
    if c = '\\' then prepend c (takeGroup start 1 (offset + 1) rest)
    else if c = '[' then
      match takeClass? rest with
      | some (taken, _) => prepend c (takeGroup start taken.length (offset + 1) rest)
      | none => .error (.unterminatedClass offset)
    else if c = '(' then .error (.nestedGroup offset)
    else if c = '.' then .error .bareDot
    else if c = ')' then .ok ([c], rest)
    else prepend c (takeGroup start 0 (offset + 1) rest)

def takeEscape (offset : Nat) : List Char → Except PatternFault (Segment × List Char)
  | [] => .error .danglingEscape
  | c :: rest =>
    if (Regex.classEscape? c).isSome then
      match takeQuantifier (offset + 2) rest with
      | .ok (quantifier, rest) => .ok (⟨.charClass, '\\' :: c :: quantifier, []⟩, rest)
      | .error fault => .error fault
    else if Text.isAlphanumeric c then .error (.unsupportedEscape c)
    else
      match rest with
      | q :: _ =>
        if isQuantifier q then .error (.quantifiedEscape (offset + 2))
        else .ok (⟨.escapedMeta, ['\\', c], [c]⟩, rest)
      | [] => .ok (⟨.escapedMeta, ['\\', c], [c]⟩, rest)

/-- Takes the segment at the start of a text that is not empty. -/
def takeSegment (offset : Nat) (c : Char) (rest : List Char) :
    Except PatternFault (Segment × List Char) :=
  if c = '\\' then takeEscape offset rest
  else if c = '[' then
    match takeClass? rest with
    | none => .error (.unterminatedClass offset)
    | some (taken, rest) =>
      match takeQuantifier (offset + 1 + taken.length) rest with
      | .ok (quantifier, rest) => .ok (⟨.charClass, c :: taken ++ quantifier, []⟩, rest)
      | .error fault => .error fault
  else if c = '(' then
    match takeGroup offset 0 (offset + 1) rest with
    | .error fault => .error fault
    | .ok (taken, rest) =>
      if rest.head?.any isQuantifier then .error .quantifiedGroup
      else .ok (⟨.capture, c :: taken, []⟩, rest)
  else if c = '.' then .error .bareDot
  else if c = '|' then .error .alternation
  else if c = '^' ∨ c = '$' ∨ c = ')' then .error (.unexpected c offset)
  else if isQuantifier c then .error (.strayQuantifier offset)
  else .ok (Segment.plain (c :: rest.takeWhile isPlain), rest.dropWhile isPlain)

/-- The segments of a text between anchors; each takes a character at least, so the length of the
text is fuel enough. -/
def segmentsFrom : Nat → Nat → List Char → Except PatternFault (List Segment)
  | _, _, [] => .ok []
  | 0, _, _ :: _ => .ok []
  | fuel + 1, offset, c :: rest =>
    match takeSegment offset c rest with
    | .error fault => .error fault
    | .ok (segment, rest) =>
      match segmentsFrom fuel (offset + segment.source.length) rest with
      | .error fault => .error fault
      | .ok segments => .ok (segment :: segments)

def body? : List Char → Option (List Char)
  | '^' :: rest => if rest.getLast? = some '$' then some rest.dropLast else none
  | _ => none

/-- Whether the dollar at the end of a key stands behind a single backslash. -/
def endsEscaped (body : List Char) : Bool :=
  match body.reverse with
  | '\\' :: '\\' :: _ => false
  | '\\' :: _ => true
  | _ => false

/-- Splits a key into its segments without checking that they compile. -/
def split (pattern : List Char) : Except PatternFault (List Segment) :=
  match body? pattern with
  | none => .error .unanchored
  | some body =>
    if endsEscaped body then .error .escapedEnd
    else match segmentsFrom body.length 1 body with
      | .error fault => .error fault
      | .ok segments => .ok (Segment.caret :: segments ++ [Segment.dollar])

/-- Checks that every prefix which ends with one of the segments is a valid expression, `before`
being the text of the segments in front. -/
def checkPrefixes : List Char → List Segment → Except PatternFault Unit
  | _, [] => .ok ()
  | before, segment :: segments =>
    let text := before ++ segment.source
    match Regex.parse text with
    | .ok _ => checkPrefixes text segments
    | .error .malformed => .error (.invalidPrefix text)
    | .error .tooManyRounds => .error .tooManyRounds

/-- The segments of a key, anchors included. -/
def parse (pattern : List Char) : Except PatternFault (List Segment) :=
  match split pattern with
  | .error fault => .error fault
  | .ok segments =>
    match checkPrefixes [] segments with
    | .error fault => .error fault
    | .ok () => .ok segments

def isPatternKey (key : String) : Bool :=
  key.toList.head? == some '^' && key.toList.getLast? == some '$'

def spelling (segments : List Segment) : List Char :=
  segments.flatMap Segment.source

end Pattern
end NextWord
