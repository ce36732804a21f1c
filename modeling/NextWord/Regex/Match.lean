import NextWord.Regex.Parser
import NextWord.Regex.Trace

/-!
# Matching

A backtracking matcher. A match tries the choices of an expression in order, each followed by the
rest of the match, and the first way that succeeds to the end is taken. Greedy repetition tries
another round before it goes on, lazy repetition goes on first, and possessive repetition never
returns to a round it has finished. Beyond the least number of rounds, a round starts only where the
last one did not start, so a round that takes nothing is not repeated.

When the round that ends a possessive repetition fails, the match goes on from where that round made
its last try, which need not be where the round began. Tries are therefore traced also where they
fail: alternatives and repetitions begin tries, single characters do not, and an alternative whose
first character is refused at once is not tried at all. This is how one generation of engines reads
possessive groups, and it is kept here with what it does to the marks of the groups. The usual
reading, and that of later engines, goes on from where the last complete round ended. For a single
character or set there is no difference.

The function `run` is by recursion on the expression; rounds are counted by fuel that the length of
the text bounds.
-/

namespace NextWord.Regex

inductive Lead
  | nothing
  | test (t : CharTest)
  | other
  deriving DecidableEq, Repr

namespace Lead

def orElse : Lead → Lead → Lead
  | .nothing, l => l
  | l, _ => l

/-- Whether a match may start here: refused is a character that the first test refuses at once. -/
def allows (s : Cursor) : Lead → Bool
  | .test t => !t.refusesAtOnce || s.rest.head?.any t.accepts
  | _ => true

/-- Whether a match may start here as far as a single character in front tells. -/
def allowsCode (s : Cursor) : Lead → Bool
  | .test (.code n false .exact) => s.rest.head?.any (·.toNat == n)
  | _ => true

end Lead

def lead : Regex → Lead
  | .empty => .nothing
  | .one t => .test t
  | .seq first second => (lead first).orElse (lead second)
  | _ => .other

structure Frame where
  /-- Whether the part is inside a repeated one. -/
  repeating : Bool := false
  /-- What comes behind the part. -/
  after : Lead := .other

namespace Frame

/-- The frame of a part that something else than a test follows. -/
def closed (f : Frame) : Frame :=
  { f with after := .other }

def before (f : Frame) (next : Regex) : Frame :=
  { f with after := (lead next).orElse f.after }

end Frame

section SingleTests

variable (test : CharTest)

/-- The positions that up to `most` accepted characters lead to, from here on. -/
def stops : Option Nat → List Char → List Char → List Cursor
  | some 0, before, rest => [⟨before, rest⟩]
  | _, before, [] => [⟨before, []⟩]
  | most, before, c :: rest =>
    if test.accepts c then ⟨before, c :: rest⟩ :: stops (most.map (· - 1)) (c :: before) rest
    else [⟨before, c :: rest⟩]

def lastStop (most : Option Nat) (s : Cursor) : Cursor :=
  (stops test most s.before s.rest).getLastD s

/-- Where counting up to `most` characters leaves the try. -/
def countedTo (most : Option Nat) (s : Cursor) : Cursor :=
  if test.countsByMatching then lastStop test most s else s

/-- Goes on from the first of several positions that leads to a match. -/
def tryEach (frame : Frame) (next : Next) : List Cursor → Trace → Outcome
  | [], t => .failed t
  | s :: others, t =>
    if frame.after.allowsCode s then
      match next s (t.at_ s) with
      | .found u => .found u
      | .failed u => tryEach frame next others (u.undo frame.repeating t.marks)
    else tryEach frame next others t

/-- Goes on from the first of several positions that leads to a match, one more character being
counted after each try. -/
def tryEachCounting (frame : Frame) (next : Next) : List Cursor → Trace → Outcome
  | [], t => .failed t
  | s :: others, t =>
    match next s (t.at_ s) with
    | .found u => .found u
    | .failed u =>
      tryEachCounting frame next others
        ((u.undo frame.repeating t.marks).at_ (countedTo test (some 1) s))

def runOne (frame : Frame) (least : Nat) (most : Option Nat) (s : Cursor) (t : Trace)
    (next : Next) : Greed → Outcome
  | .greedy =>
    if s.rest.length < least then .failed t
    else
      let ends := (stops test most s.before s.rest).drop least
      tryEach frame next ends.reverse (t.at_ (countedTo test most s))
  | .lazy =>
    if s.rest.length < least then .failed t
    else
      let ends := (stops test most s.before s.rest).drop least
      tryEachCounting test frame next ends
        (t.at_ (if least = 0 then s else countedTo test (some least) s))
  | .possessive =>
    if s.rest.length < least then .failed t
    else
      let t := t.at_ (countedTo test most s)
      match ((stops test most s.before s.rest).drop least).getLast? with
      | some u => next u t
      | none => .failed t

end SingleTests

section Rounds

variable (round : Round)

/-- Whether another round may start: some are left, and the last one did not start here. -/
def mayRepeat (left : Option Nat) (last : Option Nat) (s : Cursor) : Bool :=
  left != some 0 && last != some s.offset

def greedyRounds : Nat → Nat → Option Nat → Option Nat → Cursor → Trace → Next → Outcome
  | 0, _, _, _, s, t, next => next s (t.at_ s)
  | fuel + 1, needed + 1, left, last, s, t, next =>
    match round s (t.at_ s) fun u v =>
        greedyRounds fuel needed (left.map (· - 1)) last u v next with
    | .found u => .found u
    | .failed u => .failed (u.at_ s)
  | fuel + 1, 0, left, last, s, t, next =>
    let goOn (_ : Unit) : Outcome :=
      match next s (t.at_ s) with
      | .found u => .found u
      | .failed u => .failed (u.at_ s)
    if mayRepeat left last s then
      match round s (t.at_ s) fun u v =>
          greedyRounds fuel 0 (left.map (· - 1)) (some s.offset) u v next with
      | .found u => .found u
      | .failed _ => goOn ()
    else goOn ()

def lazyRounds (repeating : Bool) :
    Nat → Nat → Option Nat → Option Nat → Cursor → Trace → Next → Outcome
  | 0, _, _, _, s, t, next => next s (t.at_ s)
  | fuel + 1, needed + 1, left, last, s, t, next =>
    match round s (t.at_ s) fun u v =>
        lazyRounds repeating fuel needed (left.map (· - 1)) last u v next with
    | .found u => .found u
    | .failed u => .failed (u.at_ s)
  | fuel + 1, 0, left, last, s, t, next =>
    match next s (t.at_ s) with
    | .found u => .found u
    | .failed u =>
      let u := (u.undo repeating t.marks).at_ s
      if mayRepeat left last s then
        match round s u fun v w =>
            lazyRounds repeating fuel 0 (left.map (· - 1)) (some s.offset) v w next with
        | .found v => .found v
        | .failed v => .failed (v.at_ s)
      else .failed u

/-- Rounds as many as possible, none of them given back. What is found goes on at `resume`, which
behind a failed round is not where the usual reading of possessive repetition goes on. -/
def possessiveRounds : Nat → Nat → Option Nat → Option Nat → Cursor → Trace → Outcome
  | 0, _, _, _, s, t => .found (t.at_ s)
  | fuel + 1, needed + 1, left, last, s, t =>
    match round s (t.at_ s) done with
    | .found u => possessiveRounds fuel needed (left.map (· - 1)) last u.resume u
    | .failed u => .failed u
  | fuel + 1, 0, left, last, s, t =>
    if mayRepeat left last s then
      match round s (t.at_ s) done with
      | .found u =>
        possessiveRounds fuel 0 (left.map (· - 1)) (some s.offset) u.resume u
      | .failed u => .found { u with marks := t.marks }
    else .found (t.at_ s)

end Rounds

/-- A number of rounds that no match of this text needs to exceed. -/
def roundsFuel (least : Nat) (s : Cursor) : Nat :=
  least + Nat.pow (s.before.length + s.rest.length + 2) 2

/-- Matches an expression at a position, followed by the rest of the match. -/
def run : Regex → Frame → Round
  | .empty, _, s, t, next => next s t
  | .never, _, _, t, _ => .failed t
  | .one test, _, s, t, next =>
    match s.rest with
    | c :: rest => if test.accepts c then next ⟨c :: s.before, rest⟩ t else .failed t
    | [] => .failed t
  | .seq first second, frame, s, t, next =>
    run first (frame.before second) s t fun u v => run second frame u v next
  | .alt first others, frame, s, t, next =>
    if (lead first).allows s then
      match run first frame.closed s (t.at_ s) next with
      | .found u => .found u
      | .failed u => run others frame s (u.undo frame.repeating t.marks) next
    else run others frame s t next
  | .group n body, frame, s, t, next =>
    run body frame.closed s (t.mark (2 * n) s) fun u v => next u (v.mark (2 * n + 1) u)
  | .groupText n folding, _, s, t, next =>
    match (t.groupText? n s).bind fun text => s.over? folding text with
    | some u => next u t
    | none => .failed t
  | .anchor a, _, s, t, next => if s.holds a then next s t else .failed t
  | .ahead true body, frame, s, t, next =>
    match run body frame.closed s (t.at_ s) done with
    | .found u => next s u
    | .failed u => .failed u
  | .ahead false body, frame, s, t, next =>
    match run body frame.closed s (t.at_ s) done with
    | .found u => .failed u
    | .failed u => next s (u.undo frame.repeating t.marks)
  | .behind true width body, frame, s, t, next =>
    match s.back? width with
    | none => .failed t
    | some r =>
      match run body frame.closed r (t.at_ r) done with
      | .found u => next s u
      | .failed u => .failed u
  | .behind false width body, frame, s, t, next =>
    match s.back? width with
    | none => next s t
    | some r =>
      match run body frame.closed r (t.at_ r) done with
      | .found u => .failed u
      | .failed u => next s (u.undo frame.repeating t.marks)
  | .atomic body, frame, s, t, next =>
    match run body frame.closed s (t.at_ s) done with
    | .found u => next u.resume u
    | .failed u => .failed (u.at_ s)
  | .ifGroup n yes no, frame, s, t, next =>
    if (t.marks.span? n).isSome then
      run yes (if no = .empty then frame else frame.closed) s t next
    else run no frame s t next
  | .repOne greed least most test, frame, s, t, next => runOne test frame least most s t next greed
  | .rep greed least most body, frame, s, t, next =>
    let fuel := roundsFuel least s
    match greed with
    | .greedy =>
      greedyRounds (run body { repeating := true }) fuel least most none s t next
    | .lazy =>
      lazyRounds (run body { repeating := true }) frame.repeating fuel least most none s t next
    | .possessive =>
      match possessiveRounds (run body frame.closed) fuel least most none s t with
      | .found u => next u.resume u
      | .failed u => .failed (u.at_ s)

namespace Expression

/-- The end of the match of an expression that starts at a position, if there is one. An expression
is not tried where fewer characters are left than it takes at least. -/
def matchFrom? (e : Expression) (s : Cursor) : Option Cursor :=
  if s.rest.length < e.least then none
  else match run e.body {} s ⟨[], s⟩ done with
    | .found t => some t.resume
    | .failed _ => none

def takes? (e : Expression) (text : List Char) : Option (List Char) :=
  (e.matchFrom? ⟨[], text⟩).map fun s => s.before.reverse

def occursFrom (e : Expression) : List Char → List Char → Bool
  | before, [] => (e.matchFrom? ⟨before, []⟩).isSome
  | before, c :: rest =>
    (e.matchFrom? ⟨before, c :: rest⟩).isSome || occursFrom e (c :: before) rest

def occurs (e : Expression) (text : List Char) : Bool :=
  occursFrom e [] text

end Expression
end NextWord.Regex
