import NextWord.Path.Index
import NextWord.Pattern.Segment
import NextWord.Regex.Match

/-!
# The prefix tree of pattern keys

Patterns that start alike share nodes: a node stands for a segment behind the segments of its
ancestors, and has one child for each way to go on. A path that was already supplied is walked down
the tree. Each node matches its own prefix against the path and remembers the text beyond what its
parent matched; where the prefix does not match, the walk stops. Completions are built from the
bottom: fixed segments contribute their text, variable ones each text they remember. Behind a
variable segment that remembers nothing, nothing is known, and the completion ends there.

Paths are folded before they are walked, so all elements of an array look alike.
-/

namespace NextWord

/-- A node with its segment, the source of its prefix, the texts it remembers and its children. -/
inductive PatternNode
  | mk (segment : Segment) (source : List Char) (seen : List (List Char))
      (children : List PatternNode)
  deriving Repr

namespace PatternNode

def segment : PatternNode → Segment
  | .mk segment _ _ _ => segment

/-- The source of the prefix that ends with the node. -/
def source : PatternNode → List Char
  | .mk _ source _ _ => source

/-- The texts that the node remembers, in the order in which they were first seen. -/
def seen : PatternNode → List (List Char)
  | .mk _ _ seen _ => seen

/-- The nodes below, in the order in which they were added. -/
def children : PatternNode → List PatternNode
  | .mk _ _ _ children => children

def leaf (before : List Char) (segment : Segment) : PatternNode :=
  .mk segment (before ++ segment.source) [] []

def chain (before : List Char) : Segment → List Segment → PatternNode
  | segment, [] => leaf before segment
  | segment, next :: more =>
    .mk segment (before ++ segment.source) []
      [chain (before ++ segment.source) next more]

mutual

def extend : PatternNode → List Segment → PatternNode
  | node, [] => node
  | .mk segment source seen children, next :: more =>
    .mk segment source seen (extendAmong source children next more)

/-- Adds segments below the child that stands for the first of them, or as a new child. -/
def extendAmong (source : List Char) : List PatternNode → Segment → List Segment → List PatternNode
  | [], next, more => [chain source next more]
  | child :: rest, next, more =>
    if child.segment.source = next.source then extend child more :: rest
    else child :: extendAmong source rest next more

end

def remember (seen : List (List Char)) (text : List Char) : List (List Char) :=
  if seen.contains text then seen else seen ++ [text]

def prefixMatch? (source path : List Char) : Option (List Char) :=
  match Regex.ofText? source with
  | some r => r.takes? path
  | none => none

mutual

/-- Walks a path down from a node, `length` characters of it being matched by the parent. -/
def observe (path : List Char) (length : Nat) : PatternNode → PatternNode
  | .mk segment source seen children =>
    match prefixMatch? source path with
    | none => .mk segment source seen children
    | some taken =>
      .mk segment source (remember seen (taken.drop length))
        (observeAll path taken.length children)

def observeAll (path : List Char) (length : Nat) : List PatternNode → List PatternNode
  | [] => []
  | node :: rest => observe path length node :: observeAll path length rest

end

/-- Every known text of a variable segment in front of every completion behind it; nothing where no
text is known. -/
def offered (values options : List (List Char)) : List (List Char) :=
  if values.isEmpty then [[]]
  else options.flatMap fun option => values.map (· ++ option)

mutual

def completions : PatternNode → List (List Char)
  | .mk segment _ seen children =>
    match segment.kind with
    | .dollar => [[]]
    | .caret => completionsAll children
    | .literal => (completionsAll children).map (segment.literal ++ ·)
    | .escapedMeta => (completionsAll children).map (segment.literal ++ ·)
    | .charClass => offered (seen.filter (· ≠ [])) (completionsAll children)
    | .capture => offered (seen.filter (· ≠ [])) (completionsAll children)

def completionsAll : List PatternNode → List (List Char)
  | [] => []
  | node :: rest => completions node ++ completionsAll rest

end

end PatternNode

/-- Patterns in the order in which they were added, and the tree they share. -/
structure PatternTree where
  root : Option PatternNode := none
  patterns : List (List Char) := []

namespace PatternTree

def empty : PatternTree := {}

/-- Adds a pattern; a pattern that is refused leaves the tree as it is. -/
def add (tree : PatternTree) (pattern : List Char) : Except PatternFault PatternTree :=
  match Pattern.parse pattern with
  | .error fault => .error fault
  | .ok [] => .ok tree
  | .ok (first :: more) =>
    let root := tree.root.getD (.leaf [] first)
    .ok ⟨some (root.extend more), tree.patterns ++ [pattern]⟩

def observe (tree : PatternTree) (path : List Char) : PatternTree :=
  { tree with root := tree.root.map (PatternNode.observe (Path.fold path) 0) }

def completions (tree : PatternTree) : List (List Char) :=
  match tree.root with
  | none => []
  | some root => root.completions.eraseDups

end PatternTree
end NextWord
