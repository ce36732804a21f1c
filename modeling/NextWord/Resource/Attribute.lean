import NextWord.Path.Index
import NextWord.Pattern.Segment
import NextWord.Text.Blank
import NextWord.Text.Pieces

/-!
# Attributes

An attribute is declared under a key, a literal path or a pattern. Its kind says what its values
look like. Its conditions say when it applies: the predicate `when`, and alternatives of which one
must hold; blank conditions do not count.
-/

namespace NextWord

inductive AttributeKind
  | string
  | bool
  | enum
  | url
  | resourceRef
  | currency
  | file
  | singularResourceName
  | jsonApiTypeName
  | conditional
  deriving DecidableEq, Repr

namespace AttributeKind

def all : List AttributeKind :=
  [.string, .bool, .enum, .url, .resourceRef, .currency, .file, .singularResourceName,
    .jsonApiTypeName, .conditional]

def text : AttributeKind → String
  | .string => "STRING"
  | .bool => "BOOL"
  | .enum => "ENUM"
  | .url => "URL"
  | .resourceRef => "RESOURCE_ID"
  | .currency => "CURRENCY"
  | .file => "FILE"
  | .singularResourceName => "SINGULAR_RESOURCE_TYPE"
  | .jsonApiTypeName => "JSON_API_TYPE"
  | .conditional => "CONDITIONAL"

def ofText? (text : String) : Option AttributeKind :=
  all.find? fun kind => kind.text == text

theorem ofText?_text (kind : AttributeKind) : ofText? kind.text = some kind := by
  cases kind <;> decide

end AttributeKind

/-- A kind with its arguments: the values of an enumeration, the resource a reference points to. -/
structure AttributeType where
  kind : AttributeKind := .string
  enumValues : List String := []
  target : String := ""
  deriving DecidableEq, Repr

inductive TypeFault
  | unknown (text : String)
  | noValues (text : String)
  | noTarget (text : String)
  deriving DecidableEq, Repr

namespace TypeFault

def message : TypeFault → String
  | .unknown text => "unknown attribute type " ++ Text.quoted text
  | .noValues text => "ENUM type without values: " ++ Text.quoted text
  | .noTarget text => "RESOURCE_ID type without a target: " ++ Text.quoted text

end TypeFault

namespace AttributeType

/-- The values that a comma separates, blanks around them and empty ones dropped. -/
def listedValues (text : List Char) : List String :=
  (text.splitOn ',').filterMap fun piece =>
    let value := Text.strip piece
    if value.isEmpty then none else some (String.ofList value)

/-- Reads a type: the name of a kind, and behind a colon its argument. -/
def parse (text : String) : Except TypeFault AttributeType :=
  let (name, argument) := Text.cutOnce ':' (Text.strip text.toList)
  match AttributeKind.ofText? (String.ofList name) with
  | none => .error (.unknown text)
  | some .enum =>
    match listedValues argument with
    | [] => .error (.noValues text)
    | values => .ok ⟨.enum, values, ""⟩
  | some .resourceRef =>
    match Text.strip argument with
    | [] => .error (.noTarget text)
    | target => .ok ⟨.resourceRef, [], String.ofList target⟩
  | some kind => .ok ⟨kind, [], ""⟩

def text (t : AttributeType) : String :=
  match t.kind with
  | .enum => t.kind.text ++ ":" ++ ",".intercalate t.enumValues
  | .resourceRef => t.kind.text ++ ":" ++ t.target
  | kind => kind.text

end AttributeType

structure Attribute where
  key : String
  type : AttributeType := {}
  when : String := ""
  conditions : List String := []
  usage : String := ""
  autofill : String := ""
  aliasAttribute : String := ""
  deriving DecidableEq, Repr

namespace Attribute

def isPattern (a : Attribute) : Bool :=
  Pattern.isPatternKey a.key

def isBlankCondition (source : String) : Bool :=
  Text.isBlankText source.toList

def isConditional (a : Attribute) : Bool :=
  !isBlankCondition a.when || a.conditions.any fun c => !isBlankCondition c

end Attribute
end NextWord
