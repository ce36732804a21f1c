import NextWord.Predicate.Parser
import NextWord.Proofs.Predicate.Scanned

/-!
# The grammar of predicates

A predicate is a choice of conjunctions, a conjunction joins equalities, and so on down to operands:

* `Or := And (('||' | 'or') And)*`
* `And := Eq (('&&' | 'and') Eq)*`
* `Eq := Rel (('==' | '!=') Rel)*`
* `Rel := Add (('<' | '<=' | '>' | '>=' | 'in' | 'not' 'in') Add)*`
* `Add := Un (('+' | '-') Un)*`
* `Un := ('!' | 'not' | '-') Un | Post`
* `Post := Prim ('.' name | '?.' name | '[' Or ']')*`
* `Prim := number | string | name other than 'not' | '(' Or ')' | '[' (Or (',' Or)*)? ']'`

The first five are the levels of infix operations. A repetition folds to the left: its production
starts with the symbol that it defines. The grammar speaks of tokens by kind and text and knows
nothing of how they are read. It is proved elsewhere to be unambiguous.
-/

namespace NextWord.Predicate

def spellings : BinaryOp → List (List (TokenKind × String))
  | .or => [[(.sign, "||")], [(.word, "or")]]
  | .and => [[(.sign, "&&")], [(.word, "and")]]
  | .equal => [[(.sign, "==")]]
  | .notEqual => [[(.sign, "!=")]]
  | .less => [[(.sign, "<")]]
  | .lessEqual => [[(.sign, "<=")]]
  | .greater => [[(.sign, ">")]]
  | .greaterEqual => [[(.sign, ">=")]]
  | .member => [[(.word, "in")]]
  | .notMember => [[(.word, "not"), (.word, "in")]]
  | .add => [[(.sign, "+")]]
  | .sub => [[(.sign, "-")]]

def unarySpellings : UnaryOp → List (TokenKind × String)
  | .not => [(.sign, "!"), (.word, "not")]
  | .neg => [(.sign, "-")]

def Writes (op : BinaryOp) (tokens : List Token) : Prop :=
  tokens.map (fun t => (t.kind, t.text)) ∈ spellings op

def WritesUnary (op : UnaryOp) (t : Token) : Prop :=
  (t.kind, t.text) ∈ unarySpellings op

/-- What the grammar defines: a level of infix operations, an operand with operations in front, one
with accesses behind, a bare one, and the elements of an array. -/
inductive Symbol
  | level (l : Level)
  | unary
  | chain
  | primary
  | elements

/-- What stands on both sides of the operations of a level. -/
def Symbol.operandOf (l : Level) : Symbol :=
  match l.tighter with
  | some m => .level m
  | none => .unary

/-- What tokens mean as an instance of a symbol. Elements mean the array that they make. -/
inductive Derives : Symbol → List Token → Expr → Prop
  | operand {l : Level} {ts : List Token} {e : Expr} (h : Derives (.operandOf l) ts e) :
      Derives (.level l) ts e
  | operation {op : BinaryOp} {ts os us : List Token} {left right : Expr} (hop : Writes op os)
      (hleft : Derives (.level op.level) ts left)
      (hright : Derives (.operandOf op.level) us right) :
      Derives (.level op.level) (ts ++ (os ++ us)) (.binary op left right)
  | prefixed {op : UnaryOp} {t : Token} {ts : List Token} {e : Expr} (hop : WritesUnary op t)
      (h : Derives .unary ts e) : Derives .unary (t :: ts) (.unary op e)
  | accessed {ts : List Token} {e : Expr} (h : Derives .chain ts e) : Derives .unary ts e
  | bare {ts : List Token} {e : Expr} (h : Derives .primary ts e) : Derives .chain ts e
  | member {ts : List Token} {target : Expr} {name : String} {o p : Nat}
      (h : Derives .chain ts target) :
      Derives .chain (ts ++ [⟨.sign, ".", o⟩, ⟨.word, name, p⟩]) (.member target name false)
  | optionalMember {ts : List Token} {target : Expr} {name : String} {o p : Nat}
      (h : Derives .chain ts target) :
      Derives .chain (ts ++ [⟨.sign, "?.", o⟩, ⟨.word, name, p⟩]) (.member target name true)
  | index {ts us : List Token} {target place : Expr} {o p : Nat} (h : Derives .chain ts target)
      (hplace : Derives (.level .either) us place) :
      Derives .chain (ts ++ (⟨.sign, "[", o⟩ :: us ++ [⟨.sign, "]", p⟩]))
        (.index target place false)
  | number {text : String} {o : Nat} :
      Derives .primary [⟨.number, text, o⟩] (.literal (numberValue text.toList))
  | string {text : String} {o : Nat} :
      Derives .primary [⟨.string, text, o⟩] (.literal (stringValue text.toList))
  | word {text : String} {o : Nat} (h : text ≠ "not") :
      Derives .primary [⟨.word, text, o⟩] (wordOperand text)
  | group {ts : List Token} {e : Expr} {o p : Nat} (h : Derives (.level .either) ts e) :
      Derives .primary (⟨.sign, "(", o⟩ :: ts ++ [⟨.sign, ")", p⟩]) e
  | emptyArray {o p : Nat} :
      Derives .primary [⟨.sign, "[", o⟩, ⟨.sign, "]", p⟩] (.array [])
  | array {ts : List Token} {e : Expr} {o p : Nat} (h : Derives .elements ts e) :
      Derives .primary (⟨.sign, "[", o⟩ :: ts ++ [⟨.sign, "]", p⟩]) e
  | last {ts : List Token} {e : Expr} (h : Derives (.level .either) ts e) :
      Derives .elements ts (.array [e])
  | more {ts us : List Token} {e : Expr} {es : List Expr} {o : Nat}
      (h : Derives (.level .either) ts e) (hmore : Derives .elements us (.array es)) :
      Derives .elements (ts ++ ⟨.sign, ",", o⟩ :: us) (.array (e :: es))

end NextWord.Predicate
