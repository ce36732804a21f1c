import NextWord.Proofs.Environment.LastWriter
import NextWord.Proofs.Path.WrittenKeys
import NextWord.Proofs.Predicate.Rendering
import NextWord.Proofs.Value.Agreement

/-!
# Equality and membership of what a state holds

Two values of a state are compared in predicates by `==`, and by `in` with an array of one element;
both answer the same. Booleans are told from numbers only where the operands themselves are
booleans. Further inside lists and objects a boolean is as good as the number it counts as, so what
is answered is that the values agree with booleans for numbers; it is the agreement with booleans
apart from numbers exactly for operands that have booleans at the same places.
-/

namespace NextWord

open Value (IsJson Agrees BooleansApart)

namespace Eval

/-- Without NaN, values that stand on their own are compared like members of containers. -/
theorem equal_eq_same {v : Value} (h : v.IsJson) (w : Value) : v.equal w = v.same w := by
  cases h with
  | @float x hx =>
    cases w with
    | float y =>
      cases x with
      | nan written => exact absurd rfl (hx written)
      | _ => rfl
    | _ => rfl
  | _ => rfl

theorem equals_iff_agrees {v w : Value} (hv : v.IsJson) (hw : w.IsJson) :
    equals v w = true ↔ isBool v = isBool w ∧ Agrees Value.toNumber? v w := by
  have hpresence {v : Value} (h : v.IsJson) : presence v = v := by cases h <;> rfl
  rw [equals, hpresence hv, hpresence hw, equal_eq_same hv, ← Value.same_iff_agrees hv hw]
  by_cases hbool : isBool v = isBool w <;> simp [hbool]

end Eval

namespace Environment

open NextWord.Path (split IsName)
open Predicate (isWordText)

/-- Whether a state gives a value under a name: some entry has it, as text or not, and no later
entry has a path that starts with the name. -/
def Supplies (known supplied : Entries) (name : String) (v : Value) : Prop :=
  ∃ before raw after, known ++ supplied = before ++ (name, raw) :: after ∧ decode raw = v ∧
    ∀ later ∈ after, Apart [.name name] (split later.1)

theorem isName_of_isWordText {text : String} (h : isWordText text = true) :
    IsName text.toList := by
  constructor
  · intro hnil
    simp [isWordText, hnil] at h
  · intro c hmem
    have hpart := Predicate.isWordPart_of_mem h hmem
    refine ⟨?_, ?_, ?_⟩ <;> rintro rfl <;> exact absurd hpart (by decide)

theorem find?_build_of_supplies {known supplied : Entries} {name : String} {v : Value}
    (hname : isWordText name = true) (h : Supplies known supplied name v) :
    (build known supplied).find? (.name name) = some v := by
  obtain ⟨before, raw, after, hentries, rfl, hafter⟩ := h
  have hsplit : split name = [.name name] :=
    Path.split_of_writesPath
      (List.append_nil name.toList ▸ .start (isName_of_isWordText hname) .nil)
  have hread := read?_build_of_last hentries (by simp [hsplit]) (hsplit ▸ hafter)
  rwa [hsplit] at hread

end Environment

namespace Predicate

open NextWord.Expr (reservedWords renderChars)
open NextWord.Environment (Supplies)

theorem parse_of_writable {e : Expr} (h : e.Writable) {text : String}
    (htext : text.toList = renderChars e) : parse text = .ok e := by
  obtain ⟨tokens, hyields, hderives⟩ :=
    ((readAs_render h).looser (Nat.zero_le _)).reads 0 [] ends_nil
  rw [← htext] at hyields
  exact (parse_eq_ok_iff hyields.scan_eq).mpr hderives

theorem parse_equal {a b : String} (ha : (Expr.name a).Writable) (hb : (Expr.name b).Writable) :
    parse (a ++ " == " ++ b) = .ok (.binary .equal (.name a) (.name b)) := by
  apply parse_of_writable (.binary ha hb)
  simp only [String.toList_append, List.append_assoc]
  rfl

theorem parse_member {a b : String} (ha : (Expr.name a).Writable) (hb : (Expr.name b).Writable) :
    parse (a ++ " in [" ++ b ++ "]") = .ok (.binary .member (.name a) (.array [.name b])) := by
  apply parse_of_writable (.binary ha (.array (List.forall_mem_singleton.mpr hb)))
  simp only [String.toList_append, List.append_assoc]
  rfl

/-- The answer of `==` for two values of a state is that of `in` with an array of the second one. It
is true exactly if both operands are booleans or neither is, and they agree with booleans for
numbers. So it says whether they agree with booleans apart from numbers as long as they have
booleans at the same places. -/
theorem eval_equality {a b : String} (ha : isWordText a = true) (hafree : a ∉ reservedWords)
    (hb : isWordText b = true) (hbfree : b ∉ reservedWords) {known supplied : Entries}
    {x y : Value} (hx : Supplies known supplied a x) (hy : Supplies known supplied b y)
    (hxjson : x.IsJson) (hyjson : y.IsJson) :
    ∃ equality membership answer,
      parse (a ++ " == " ++ b) = .ok equality ∧ parse (a ++ " in [" ++ b ++ "]") = .ok membership ∧
      equality.eval (.build known supplied) = .ok (.bool answer) ∧
      membership.eval (.build known supplied) = .ok (.bool answer) ∧
      (answer = true ↔ Eval.isBool x = Eval.isBool y ∧ Agrees Value.toNumber? x y) ∧
      (Agrees Value.number? x y ↔ answer = true ∧ BooleansApart x y) := by
  have hwritable : Expr.Writable (.name a) := .name ha hafree
  have hwritable' : Expr.Writable (.name b) := .name hb hbfree
  have hleft : (Expr.name a).eval (.build known supplied) = .ok x := by
    rw [Expr.eval, Environment.find?_build_of_supplies ha hx]
    rfl
  have hright : (Expr.name b).eval (.build known supplied) = .ok y := by
    rw [Expr.eval, Environment.find?_build_of_supplies hb hy]
    rfl
  refine ⟨_, _, Eval.equals x y, parse_equal hwritable hwritable',
    parse_member hwritable hwritable', ?_, ?_, Eval.equals_iff_agrees hxjson hyjson, ?_⟩
  · rw [Expr.eval, hleft]
    simp only [hright]
    rfl
  · have harray : (Expr.array [.name b]).eval (.build known supplied) = .ok (.list [y]) := by
      rw [Expr.eval, Expr.evalAll, hright]
      rfl
    have hcontains : Eval.contains x (.list [y]) = .ok (Eval.equals x y) := by
      rw [Eval.contains, List.any_cons, List.any_nil, Bool.or_false]
    rw [Expr.eval, hleft]
    simp only [harray, Eval.apply, hcontains]
    rfl
  · rw [Eval.equals_iff_agrees hxjson hyjson, Value.agrees_number?_iff]
    constructor
    · rintro ⟨hagrees, hapart⟩
      exact ⟨⟨hapart [] x y rfl rfl, hagrees⟩, hapart⟩
    · rintro ⟨⟨-, hagrees⟩, hapart⟩
      exact ⟨hagrees, hapart⟩

/-- Objects with their keys in another order, and a negative nought instead of a nought. -/
theorem eval_equality_objects :
    let x : Value := .list [.dict [(.name "on", .bool true), (.name "count", .int 0)]]
    let y : Value :=
      .list [.dict [(.name "count", .float (.finite true 0)), (.name "on", .bool true)]]
    let known : Entries := [("a", .str "[1]"), ("b", y)]
    let supplied : Entries := [("a", x), ("c", .str "[2]")]
    isWordText "a" = true ∧ "a" ∉ reservedWords ∧ isWordText "b" = true ∧ "b" ∉ reservedWords ∧
      Supplies known supplied "a" x ∧ Supplies known supplied "b" y ∧ x.IsJson ∧ y.IsJson ∧
      ∃ equality membership answer,
        parse ("a" ++ " == " ++ "b") = .ok equality ∧
        parse ("a" ++ " in [" ++ "b" ++ "]") = .ok membership ∧
        equality.eval (.build known supplied) = .ok (.bool answer) ∧
        membership.eval (.build known supplied) = .ok (.bool answer) ∧
        (answer = true ↔ Eval.isBool x = Eval.isBool y ∧ Agrees Value.toNumber? x y) ∧
        (Agrees Value.number? x y ↔ answer = true ∧ BooleansApart x y) := by
  intro x y known supplied
  have hx : Supplies known supplied "a" x := by
    refine ⟨[("a", .str "[1]"), ("b", y)], x, [("c", .str "[2]")], rfl, rfl, ?_⟩
    simp only [List.forall_mem_singleton, Environment.Apart]
    decide
  have hy : Supplies known supplied "b" y := by
    refine ⟨[("a", .str "[1]")], y, [("a", x), ("c", .str "[2]")], rfl, rfl, ?_⟩
    simp only [List.forall_mem_cons, Environment.Apart]
    decide
  have hxjson : x.IsJson := by
    apply IsJson.list
    rw [List.forall_mem_singleton]
    refine .dict (by decide) ?_
    rw [List.forall_mem_cons, List.forall_mem_singleton]
    exact ⟨.bool true, .int 0⟩
  have hyjson : y.IsJson := by
    apply IsJson.list
    rw [List.forall_mem_singleton]
    refine .dict (by decide) ?_
    rw [List.forall_mem_cons, List.forall_mem_singleton]
    exact ⟨.float (by simp), .bool true⟩
  have hword : isWordText "a" = true ∧ "a" ∉ reservedWords := by decide
  have hword' : isWordText "b" = true ∧ "b" ∉ reservedWords := by decide
  exact ⟨hword.1, hword.2, hword'.1, hword'.2, hx, hy, hxjson, hyjson,
    eval_equality hword.1 hword.2 hword'.1 hword'.2 hx hy hxjson hyjson⟩

/-- Inside a list `true` and one are taken for the same. -/
theorem eval_equality_not_apart :
    let x : Value := .list [.bool true]
    let y : Value := .list [.int 1]
    let supplied : Entries := [("a", .str "[true]"), ("b", .str "[1]")]
    Supplies [] supplied "a" x ∧ Supplies [] supplied "b" y ∧ x.IsJson ∧ y.IsJson ∧
      ¬ Agrees Value.number? x y ∧
      ∃ equality, parse ("a" ++ " == " ++ "b") = .ok equality ∧
        equality.eval (.build [] supplied) = .ok (.bool true) := by
  intro x y supplied
  have hx : Supplies [] supplied "a" x := by
    refine ⟨[], .str "[true]", [("b", .str "[1]")], rfl, rfl, ?_⟩
    simp only [List.forall_mem_singleton, Environment.Apart]
    decide
  have hy : Supplies [] supplied "b" y :=
    ⟨[("a", .str "[true]")], .str "[1]", [], rfl, rfl, by simp⟩
  have hxjson : x.IsJson := .list (List.forall_mem_singleton.mpr (.bool true))
  have hyjson : y.IsJson := .list (List.forall_mem_singleton.mpr (.int 1))
  have hnot : ¬ Agrees Value.number? x y := by
    intro h
    have hkinds := (h.step (.index 0) rfl rfl).isBool_eq
    cases hkinds
  have hparse : parse ("a" ++ " == " ++ "b") = .ok (.binary .equal (.name "a") (.name "b")) :=
    parse_equal (.name (by decide) (by decide)) (.name (by decide) (by decide))
  exact ⟨hx, hy, hxjson, hyjson, hnot, _, hparse, rfl⟩

end Predicate

end NextWord
