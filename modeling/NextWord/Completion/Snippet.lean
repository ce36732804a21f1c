import NextWord.Text.Blank
import NextWord.Text.Pieces
import NextWord.Vocabulary

/-!
# Template snippets

A value may be a template, which computes it by a pipeline of functions. A snippet adds one function
to what was typed: outside a template it opens one, and behind a pipe it goes on with the pipeline,
where functions of a given text make sense as well. Each snippet comes with both ends, the next pipe
and the end of the template. Once the function that reads a variable has been typed, the names of
all variables are offered for it.
-/

namespace NextWord.Snippet

/-- The function that reads a variable of the environment. -/
def readsVariable : String := "env"

/-- Whether the text is that function with blanks behind it and then at most a word of letters and
more blanks. -/
def isOpenCall (text : List Char) : Bool :=
  readsVariable.toList.isPrefixOf text &&
    let rest := text.drop readsVariable.length
    rest.head?.any Text.isBlank &&
      ((rest.dropWhile Text.isBlank).dropWhile Char.isAlpha).all Text.isBlank

/-- Whether the text ends with a call of that function whose variable is still being typed. -/
def asksForVariable : List Char → Bool
  | [] => false
  | c :: rest => isOpenCall (c :: rest) || asksForVariable rest

/-- What stands before the function that is added. -/
def opening (typed : List Char) : List Char :=
  match Text.throughLast? '|' typed with
  | some pipeline => pipeline ++ [' ']
  | none => ['\x7b', '\x7b', ' ']

def functions (typed : List Char) (names : List String) : List String :=
  Vocabulary.generatorFunctions ++
    (if typed.contains '|' then Vocabulary.pipelineFunctions else []) ++
    (if asksForVariable typed then
      (Text.sorted names).map fun name => readsVariable ++ " \"" ++ name ++ "\""
    else [readsVariable])

def ends : List String := [" |", " \x7d\x7d"]

/-- The snippets that continue the word typed so far. -/
def all (typed : String) (names : List String) : List String :=
  (functions typed.toList names).flatMap fun function =>
    ends.map fun ending => String.ofList (opening typed.toList) ++ function ++ ending

end NextWord.Snippet
