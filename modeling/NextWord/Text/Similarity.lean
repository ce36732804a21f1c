/-!
# Similar words

How alike two words are, for suggesting the word that was meant. The likeness of two words is twice
the number of characters they share, in runs found longest first, over the sum of their lengths. In
a word of 200 characters or more, the characters that make up more than one percent of it do not
start a run, although they may lengthen one.
-/

namespace NextWord.Text

def sharedStart : List Char → List Char → Nat
  | a :: as, b :: bs => if a = b then sharedStart as bs + 1 else 0
  | _, _ => 0

/-- A run of equal characters: where it starts in either word, and its length. -/
structure CommonRun where
  left : Nat
  right : Nat
  size : Nat

/-- Lengths of the runs that end at each place of the right word and at the character `a` of the
left one, from the lengths for the character before. -/
def runLengths (common : Char → Bool) (a : Char) : Nat → List Nat → List Char → List Nat
  | diagonal, above :: row, b :: bs =>
    (if a = b ∧ ¬ common b then diagonal + 1 else 0) :: runLengths common a above row bs
  | diagonal, [], b :: bs =>
    (if a = b ∧ ¬ common b then diagonal + 1 else 0) :: runLengths common a 0 [] bs
  | _, _, [] => []

/-- The first run of a row that is longer than the best so far. -/
def betterInRow (i : Nat) : Nat → List Nat → CommonRun → CommonRun
  | _, [], best => best
  | j, k :: row, best =>
    betterInRow i (j + 1) row
      (if best.size < k then ⟨i + 1 - k, j + 1 - k, k⟩ else best)

/-- The longest run, the earliest in the left and then in the right word among equals. -/
def longestRun (common : Char → Bool) (bs : List Char) :
    Nat → List Nat → List Char → CommonRun → CommonRun
  | _, _, [], best => best
  | i, row, a :: as, best =>
    let row := runLengths common a 0 row bs
    longestRun common bs (i + 1) row as (betterInRow i 0 row best)

/-- The longest run, lengthened at both ends as far as the words agree. -/
def extendedRun (common : Char → Bool) (as bs : List Char) : CommonRun :=
  let run := longestRun common bs 0 [] as ⟨0, 0, 0⟩
  let back := sharedStart (as.take run.left).reverse (bs.take run.right).reverse
  let ahead := sharedStart (as.drop (run.left + run.size)) (bs.drop (run.right + run.size))
  ⟨run.left - back, run.right - back, back + run.size + ahead⟩

/-- Number of characters shared in runs. `fuel` bounds the number of nested runs, which the length
of the left word does. -/
def sharedIn (common : Char → Bool) : Nat → List Char → List Char → Nat
  | 0, _, _ => 0
  | fuel + 1, as, bs =>
    let run := extendedRun common as bs
    if run.size = 0 then 0
    else
      run.size + sharedIn common fuel (as.take run.left) (bs.take run.right) +
        sharedIn common fuel (as.drop (run.left + run.size)) (bs.drop (run.right + run.size))

/-- Whether a character is too frequent in a long word to start a run. -/
def isFrequentIn (word : List Char) (c : Char) : Bool :=
  200 ≤ word.length && word.length / 100 + 1 < word.count c

def sharedCount (known word : List Char) : Nat :=
  sharedIn (isFrequentIn word) (known.length + 1) known word

structure Likeness where
  shared : Nat
  total : Nat

def likeness (known word : List Char) : Likeness :=
  ⟨sharedCount known word, known.length + word.length⟩

/-- At least three fifths alike. -/
def Likeness.isClose (l : Likeness) : Bool :=
  l.total == 0 || 3 * l.total ≤ 10 * l.shared

/-- Strictly less alike. Two empty words are wholly alike. -/
def Likeness.less (l m : Likeness) : Bool :=
  if l.total = 0 then false
  else if m.total = 0 then l.shared * 2 < l.total
  else l.shared * m.total < m.shared * l.total

/-- Of two candidates the more alike, of equals the later one in the order of code points. -/
def closer (best : Option (Likeness × String)) (next : Likeness × String) :
    Option (Likeness × String) :=
  match best with
  | none => some next
  | some found =>
    if found.1.less next.1 || (!next.1.less found.1 && found.2 < next.2) then some next else best

/-- The known word most like a word, if any is at least three fifths alike. -/
def closest? (word : String) (known : List String) : Option String :=
  let candidates := known.filterMap fun k =>
    let l := likeness k.toList word.toList
    if l.isClose then some (l, k) else none
  (candidates.foldl closer none).map (·.2)

end NextWord.Text
