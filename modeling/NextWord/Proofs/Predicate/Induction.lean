import NextWord.Predicate.Eval
import NextWord.Predicate.ForPath

/-!
# Induction on predicates

Arrays nest predicates in a list, so the principle that goes with the type asks for a second motive.
The one here gives every element of an array its own hypothesis instead. The functions that walk
through an array come with a lemma that lifts a fact about its elements to the whole of it.
-/

namespace NextWord.Expr

/-- Induction on a predicate, with a hypothesis for each element of an array. -/
@[induction_eliminator]
theorem induct {motive : Expr → Prop}
    (literal : ∀ v, motive (.literal v))
    (array : ∀ items, (∀ e ∈ items, motive e) → motive (.array items))
    (name : ∀ text, motive (.name text))
    (member : ∀ target field isOptional, motive target → motive (.member target field isOptional))
    (index : ∀ target place isOptional, motive target → motive place →
      motive (.index target place isOptional))
    (unary : ∀ op operand, motive operand → motive (.unary op operand))
    (binary : ∀ op left right, motive left → motive right → motive (.binary op left right))
    (e : Expr) : motive e :=
  @Expr.rec motive (fun items => ∀ e ∈ items, motive e) literal array name member index unary binary
    (fun _ h => absurd h List.not_mem_nil)
    (fun _ _ hfirst hrest e h => (List.mem_cons.mp h).elim (fun heq => heq ▸ hfirst) (hrest e)) e

def children : Expr → List Expr
  | .literal _ => []
  | .array items => items
  | .name _ => []
  | .member target _ _ => [target]
  | .index target place _ => [target, place]
  | .unary _ operand => [operand]
  | .binary _ left right => [left, right]

theorem mem_namesOfAll {text : String} {items : List Expr} :
    text ∈ namesOfAll items ↔ ∃ e ∈ items, text ∈ e.names := by
  induction items with
  | nil => simp [namesOfAll]
  | cons first items ih => simp [namesOfAll, ih]

theorem forPathAll_eq_map (path : List Char) (items : List Expr) :
    forPathAll path items = items.map (forPath path) := by
  induction items with
  | nil => rfl
  | cons first items ih => rw [forPathAll, ih, List.map_cons]

theorem evalAll_congr {env env' : Environment} {items : List Expr}
    (h : ∀ e ∈ items, eval env e = eval env' e) : evalAll env items = evalAll env' items := by
  induction items with
  | nil => rfl
  | cons first items ih =>
    have hitems := ih (fun e he => h e (List.mem_cons_of_mem first he))
    rw [evalAll, evalAll, h first List.mem_cons_self, hitems]

end NextWord.Expr
