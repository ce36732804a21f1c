import NextWord.Completion.Attributes
import NextWord.Proofs.Number.Overflow
import NextWord.Proofs.Outcome
import NextWord.Proofs.Predicate.Induction

/-!
# How an evaluation can fail

Every fault of an evaluation is the predicate's own, and an attribute is offered in spite of it,
with one exception: a sum or difference of an integer and a double, the integer being 2^1024 - 2^970
or more in size. Where no part of a predicate is such a sum, the attribute is shown or hidden, or
offered with a warning, and nothing else happens.
-/

namespace NextWord

namespace Eval

/-- Whether two values are a double and an integer too large to become one. -/
def Overflows (left right : Value) : Prop :=
  ∃ i x, Binary64.integerLimit ≤ i.natAbs ∧
    ((left = .int i ∧ right = .float x) ∨ (left = .float x ∧ right = .int i))

theorem eq_int_of_number? {v : Value} {i : Int} (h : v.number? = some (.int i)) : v = .int i := by
  cases v <;> cases h
  rfl

theorem eq_float_of_number? {v : Value} {x : Binary64} (h : v.number? = some (.float x)) :
    v = .float x := by
  cases v <;> cases h
  rfl

/-- Where a sum fails, the conversion of one of its operands fails and the other one is a double. -/
theorem exists_of_addNumbers {negateRight : Bool} {m n : Number} {fault : EvalFault}
    (h : addNumbers negateRight m n = .error fault) :
    ∃ i x, Binary64.ofInt? i = none ∧
      ((m = .int i ∧ n = .float x) ∨ (m = .float x ∧ n = .int i)) := by
  -- The conversion gets a name of its own, so that the case analysis does not compute it.
  obtain ⟨convert, hconvert⟩ : ∃ convert, convert = Binary64.ofInt? := ⟨_, rfl⟩
  unfold addNumbers at h
  rw [← hconvert] at h ⊢
  split at h
  · cases h
  · cases h
  · next i y =>
    split at h
    · cases h
    · next hnone => exact ⟨i, y, hnone, .inl ⟨rfl, rfl⟩⟩
  · next x j =>
    split at h
    · cases h
    · next hnone => exact ⟨j, x, hnone, .inr ⟨rfl, rfl⟩⟩

theorem overflows_of_addNumbers {negateRight : Bool} {left right : Value} {m n : Number}
    {fault : EvalFault} (hleft : left.number? = some m) (hright : right.number? = some n)
    (h : addNumbers negateRight m n = .error fault) : Overflows left right := by
  obtain ⟨i, x, hnone, hoperands⟩ := exists_of_addNumbers h
  refine ⟨i, x, Binary64.ofInt?_eq_none_iff.mp hnone, ?_⟩
  rcases hoperands with ⟨rfl, rfl⟩ | ⟨rfl, rfl⟩
  · exact .inl ⟨eq_int_of_number? hleft, eq_float_of_number? hright⟩
  · exact .inr ⟨eq_float_of_number? hleft, eq_int_of_number? hright⟩

theorem overflows_of_arithmetic {op : BinaryOp} {left right : Value}
    (h : arithmetic op left right = .error .integerTooLarge) : Overflows left right := by
  unfold arithmetic at h
  split at h
  · cases h
  · cases h
  · split at h
    · next hleft hright => exact overflows_of_addNumbers hleft hright h
    · split at h <;> cases h

theorem compare_ne_integerTooLarge (op : BinaryOp) (left right : Value) :
    compare op left right ≠ .error .integerTooLarge := by
  intro h
  unfold compare at h
  split at h
  · cases h
  · split at h
    · cases h
    · split at h <;> cases h

theorem contains_ne_integerTooLarge (item container : Value) :
    contains item container ≠ .error .integerTooLarge := by
  intro h
  unfold contains at h
  split at h
  · cases h
  · cases h
  · cases h
  · split at h <;> cases h
  · split at h <;> cases h
  · cases h

theorem access_ne_integerTooLarge (target key : Value) (isOptional : Bool) :
    access target key isOptional ≠ .error .integerTooLarge := by
  intro h
  unfold access at h
  split at h
  · split at h <;> cases h
  · split at h <;> cases h
  · split at h <;> cases h
  · cases h
  · split at h <;> cases h

theorem negate_ne_integerTooLarge (v : Value) : negate v ≠ .error .integerTooLarge := by
  intro h
  cases v <;> cases h

/-- Of the infix operations only sums and differences can fail with an integer too large. -/
theorem overflows_of_apply {op : BinaryOp} {left right : Value}
    (h : apply op left right = .error .integerTooLarge) :
    (op = .add ∨ op = .sub) ∧ Overflows left right := by
  have hcontains : ∀ {f : Bool → Value},
      (contains left right).map f ≠ .error .integerTooLarge := by
    intro f hf
    cases hresult : contains left right with
    | ok b => rw [hresult] at hf; cases hf
    | error fault =>
      rw [hresult] at hf
      cases hf
      exact contains_ne_integerTooLarge left right hresult
  cases op with
  | add => exact ⟨.inl rfl, overflows_of_arithmetic h⟩
  | sub => exact ⟨.inr rfl, overflows_of_arithmetic h⟩
  | equal => cases h
  | notEqual => cases h
  | member => exact absurd h hcontains
  | notMember => exact absurd h hcontains
  | _ => exact absurd h (compare_ne_integerTooLarge _ left right)

end Eval

namespace Expr

/-- Whether a predicate or a part of it is a sum or difference whose operands have values that are a
double and an integer too large to become one. -/
inductive HasOverflow (env : Environment) : Expr → Prop
  | here {op : BinaryOp} {left right : Expr} {v w : Value} (hop : op = .add ∨ op = .sub)
      (hleft : left.eval env = .ok v) (hright : right.eval env = .ok w)
      (overflows : Eval.Overflows v w) : HasOverflow env (.binary op left right)
  | inside {part whole : Expr} (hpart : part ∈ whole.children) (h : HasOverflow env part) :
      HasOverflow env whole

theorem exists_of_evalAll {env : Environment} {items : List Expr} {fault : EvalFault}
    (h : evalAll env items = .error fault) : ∃ e ∈ items, eval env e = .error fault := by
  induction items with
  | nil => cases h
  | cons first items ih =>
    rw [evalAll] at h
    split at h
    · next hfirst =>
      cases h
      exact ⟨first, List.mem_cons_self, hfirst⟩
    · split at h
      · next hitems =>
        cases h
        obtain ⟨e, he, hfault⟩ := ih hitems
        exact ⟨e, List.mem_cons_of_mem first he, hfault⟩
      · cases h

/-- An evaluation fails with an integer too large only where a part overflows. -/
theorem hasOverflow_of_eval {env : Environment} {e : Expr}
    (h : e.eval env = .error .integerTooLarge) : HasOverflow env e := by
  induction e with
  | literal v => cases h
  | array items ih =>
    rw [eval] at h
    cases hitems : evalAll env items with
    | ok vs => rw [hitems] at h; cases h
    | error fault =>
      rw [hitems] at h
      cases h
      obtain ⟨e, he, hfault⟩ := exists_of_evalAll hitems
      exact .inside he (ih e he hfault)
  | name text => cases h
  | member target field isOptional ih =>
    rw [eval] at h
    split at h
    · next htarget =>
      cases h
      exact .inside (by simp [children]) (ih htarget)
    · exact absurd h (Eval.access_ne_integerTooLarge _ _ _)
  | index target place isOptional ihtarget ihplace =>
    rw [eval] at h
    split at h
    · next htarget =>
      cases h
      exact .inside (by simp [children]) (ihtarget htarget)
    · split at h
      · next hplace =>
        cases h
        exact .inside (by simp [children]) (ihplace hplace)
      · exact absurd h (Eval.access_ne_integerTooLarge _ _ _)
  | unary op operand ih =>
    rw [eval] at h
    split at h
    · next hoperand =>
      cases h
      exact .inside (by simp [children]) (ih hoperand)
    · split at h
      · cases h
      · exact absurd h (Eval.negate_ne_integerTooLarge _)
  | binary op left right ihleft ihright =>
    rw [eval] at h
    split at h
    · next hleft =>
      cases h
      exact .inside (by simp [children]) (ihleft hleft)
    · next v hleft =>
      split at h
      · cases h
      · split at h
        · cases h
        · split at h
          · next hright =>
            cases h
            exact .inside (by simp [children]) (ihright hright)
          · next w hright =>
            split at h
            · cases h
            · obtain ⟨hop, overflows⟩ := Eval.overflows_of_apply h
              exact .here hop hleft hright overflows

/-- The predicate of a path has a value, fails with a fault of its own, or has a part that
overflows, and then the fault is the integer too large. -/
theorem eval_forPath_outcome (e : Expr) (path : String) (known supplied : Entries) :
    (∃ v, (e.forPath path.toList).eval (.build known supplied) = .ok v) ∨
    (∃ fault, (e.forPath path.toList).eval (.build known supplied) = .error fault ∧
      (PredicateFault.evaluation fault).isOwn = true) ∨
    ((e.forPath path.toList).eval (.build known supplied) = .error .integerTooLarge ∧
      HasOverflow (.build known supplied) (e.forPath path.toList)) := by
  cases houtcome : (e.forPath path.toList).eval (.build known supplied) with
  | ok v => exact .inl ⟨v, rfl⟩
  | error fault =>
    cases fault with
    | integerTooLarge => exact .inr (.inr ⟨rfl, hasOverflow_of_eval houtcome⟩)
    | _ => exact .inr (.inl ⟨_, rfl, rfl⟩)

def failsTooLarge : Except EvalFault Value → Bool
  | .error .integerTooLarge => true
  | _ => false

theorem eq_error_of_failsTooLarge {outcome : Except EvalFault Value}
    (h : failsTooLarge outcome = true) : outcome = .error .integerTooLarge := by
  unfold failsTooLarge at h
  split at h
  · rfl
  · cases h

/-- A sum that is too much for a double fails with a fault that is not the predicate's own. -/
theorem eval_forPath_not_own :
    ∃ e : Expr, Predicate.parse "total + 1.5" = .ok e ∧
      (e.forPath "discount".toList).eval
        (.build [] [("total", .str (String.ofList ('1' :: List.replicate 400 '0')))]) =
          .error .integerTooLarge ∧
      (PredicateFault.evaluation .integerTooLarge).isOwn = false := by
  let text := '1' :: List.replicate 400 '0'
  have hsplit : Path.split "total" = [.name "total"] := by decide +kernel
  have henv : Environment.build [] [("total", .str (String.ofList text))] =
      [(.name "total", (Json.read? text).getD (.str (String.ofList text)))] := by
    simp [Environment.build, Environment.insert, Environment.decode, Environment.assign,
      Table.put, hsplit]
  have hrun : (Predicate.parse "total + 1.5").toOption.map (fun e => failsTooLarge
      ((e.forPath "discount".toList).eval
        [(.name "total", (Json.read? text).getD (.str (String.ofList text)))])) = some true := by
    decide +kernel
  rw [henv]
  cases hparse : Predicate.parse "total + 1.5" with
  | error fault =>
    rw [hparse] at hrun
    cases hrun
  | ok e =>
    rw [hparse] at hrun
    exact ⟨e, rfl, eq_error_of_failsTooLarge (Option.some.inj hrun), rfl⟩

end Expr

theorem PredicateFault.eq_of_isOwn_eq_false {fault : PredicateFault} (h : fault.isOwn = false) :
    fault = .evaluation .integerTooLarge := by
  cases fault with
  | wording source fault => cases h
  | evaluation fault => cases fault <;> first | rfl | cases h

namespace Predicate

/-- Reading conditions fails with their wording only. -/
theorem readAll_ne_evaluation {sources : List String} {fault : EvalFault} :
    readAll sources ≠ .error (.evaluation fault) := by
  intro h
  induction sources with
  | nil => cases h
  | cons source sources ih =>
    rw [readAll, read] at h
    cases hparse : parse source with
    | error wording =>
      rw [hparse] at h
      cases h
    | ok e =>
      rw [hparse] at h
      cases hrest : readAll sources with
      | error rest =>
        rw [hrest] at h
        cases h
        exact ih hrest
      | ok es =>
        rw [hrest] at h
        cases h

theorem ofAttribute_ne_evaluation {a : Attribute} {fault : EvalFault} :
    ofAttribute a ≠ .error (.evaluation fault) := by
  intro h
  rw [ofAttribute] at h
  split at h
  · next hguards =>
    cases h
    exact readAll_ne_evaluation hguards
  · split at h
    · next halternatives =>
      cases h
      exact readAll_ne_evaluation halternatives
    · cases h

theorem exists_of_isVisible {env : Environment} {a : Attribute} {path : String}
    {fault : EvalFault} (h : isVisible env a path = .error (.evaluation fault)) :
    ∃ e, ofAttribute a = .ok (some e) ∧ (e.forPath path.toList).eval env = .error fault := by
  rw [isVisible] at h
  cases hread : ofAttribute a with
  | error reading =>
    rw [hread] at h
    cases h
    exact absurd hread ofAttribute_ne_evaluation
  | ok predicate =>
    rw [hread] at h
    cases predicate with
    | none => cases h
    | some e =>
      simp only [decideFor] at h
      split at h
      · cases h
      · next houtcome =>
        cases h
        exact ⟨e, rfl, houtcome⟩

end Predicate

namespace Context

open Predicate PredicateFault

/-- Whether an attribute is offered is answered unless its predicate overflows for the path. -/
theorem isOffered_outcome (ctx : Context) (r : Request) (env : Environment) (a : Attribute)
    (path : String) :
    (∃ offered, (ctx.isOffered r env a path).result = .ok offered) ∨
    ((ctx.isOffered r env a path).result = .error .integerTooLarge ∧
      ∃ e, Predicate.ofAttribute a = .ok (some e) ∧
        Expr.HasOverflow env (e.forPath path.toList)) := by
  rw [isOffered]
  split
  · exact .inl ⟨true, rfl⟩
  · cases hvisible : Predicate.isVisible env a path with
    | ok visible => exact .inl ⟨visible, rfl⟩
    | error fault =>
      cases hown : fault.isOwn with
      | true => exact .inl ⟨true, by simp [settled, hown]⟩
      | false =>
        obtain rfl := eq_of_isOwn_eq_false hown
        obtain ⟨e, hread, houtcome⟩ := exists_of_isVisible hvisible
        exact .inr ⟨rfl, e, hread, Expr.hasOverflow_of_eval houtcome⟩

end Context
end NextWord
