import NextWord.Number.Shortest
import NextWord.Text.Quoted
import NextWord.Value.Basic

/-!
# Written form of a value

How a message shows a value: text in quotation marks, lists in brackets, objects in braces, items
separated by a comma and a space.
-/

namespace NextWord

def intText (i : Int) : String :=
  String.ofList (Text.writeInt i)

namespace Key

def written : Key → String
  | .index n => intText n
  | .name text => Text.quoted text

end Key

namespace Value

mutual

def written : Value → String
  | .absent => "ABSENT"
  | .null => "None"
  | .bool b => if b then "True" else "False"
  | .int i => intText i
  | .float x => x.text
  | .str text => Text.quoted text
  | .list items => "[" ++ ", ".intercalate (writtenItems items) ++ "]"
  | .dict entries => "\x7b" ++ ", ".intercalate (writtenEntries entries) ++ "\x7d"
  | .moment _ text => text

def writtenItems : List Value → List String
  | [] => []
  | v :: vs => written v :: writtenItems vs

def writtenEntries : List (Key × Value) → List String
  | [] => []
  | (key, v) :: es => (key.written ++ ": " ++ written v) :: writtenEntries es

end

/-- The plain form of a value: a text stands for itself. -/
def display : Value → String
  | .str text => text
  | v => v.written

end Value
end NextWord
