import NextWord.Proofs.Outcome
import NextWord.Proofs.Predicate.Judging

/-!
# Conditions asked in order

The predicate of an attribute joins its conditions in one expression: `when` and one of the
alternatives. What it says for a path is what the conditions say, each read and prepared by itself
and asked only where those before it leave the answer open: `when` first, which must hold, then the
alternatives up to the first that holds. The first fault on the way is the fault of the whole; and a
condition that cannot be read is a fault before anything is asked.
-/

namespace NextWord

namespace Attribute

def guards (a : Attribute) : List String :=
  if isBlankCondition a.when then [] else [a.when]

def alternatives (a : Attribute) : List String :=
  a.conditions.filter fun c => !isBlankCondition c

theorem isConditional_eq_false_iff (a : Attribute) :
    a.isConditional = false ↔ a.guards = [] ∧ a.alternatives = [] := by
  rw [isConditional, guards, alternatives]
  cases hblank : isBlankCondition a.when with
  | true => simp
  | false => simp

end Attribute

namespace Predicate

section Asking

/-- The first answer that is not false, and false if there is none. -/
def anyInOrder {α : Type} (ask : α → Except PredicateFault Bool) :
    List α → Except PredicateFault Bool
  | [] => .ok false
  | first :: others =>
    match ask first with
    | .ok false => anyInOrder ask others
    | settled => settled

/-- The answer of the alternatives; where there is none to meet, they are met. -/
def alternativesInOrder {α : Type} (ask : α → Except PredicateFault Bool) (alternatives : List α) :
    Except PredicateFault Bool :=
  if alternatives.isEmpty then .ok true else anyInOrder ask alternatives

/-- The answer of a guard, and of the alternatives if it holds or there is none. -/
def inOrder {α : Type} (ask : α → Except PredicateFault Bool) :
    Option α → List α → Except PredicateFault Bool
  | none, alternatives => alternativesInOrder ask alternatives
  | some guard, alternatives =>
    match ask guard with
    | .ok true => alternativesInOrder ask alternatives
    | settled => settled

/-- What one condition says for a path, read and prepared by itself. -/
def answer (env : Environment) (path source : String) : Except PredicateFault Bool :=
  match read source with
  | .error fault => .error fault
  | .ok e =>
    match (e.forPath path.toList).eval env with
    | .error fault => .error (.evaluation fault)
    | .ok v => .ok v.isTruthy

end Asking

section Joined

theorem isTruthy_bool (b : Bool) : (Value.bool b).isTruthy = b := rfl

variable {env : Environment} {path : String}

theorem decideFor_or (left right : Expr) :
    decideFor env (some (.binary .or left right)) path =
      match decideFor env (some left) path with
      | .ok false => decideFor env (some right) path
      | settled => settled := by
  simp only [decideFor, Expr.forPath, Expr.eval]
  cases (left.forPath path.toList).eval env with
  | error fault => rfl
  | ok v =>
    cases htruthy : v.isTruthy with
    | true => simp [htruthy, isTruthy_bool]
    | false =>
      cases (right.forPath path.toList).eval env with
      | error fault => simp [htruthy]
      | ok w => simp [htruthy, isTruthy_bool]

theorem decideFor_and (left right : Expr) :
    decideFor env (some (.binary .and left right)) path =
      match decideFor env (some left) path with
      | .ok true => decideFor env (some right) path
      | settled => settled := by
  simp only [decideFor, Expr.forPath, Expr.eval]
  cases (left.forPath path.toList).eval env with
  | error fault => rfl
  | ok v =>
    cases htruthy : v.isTruthy with
    | false => simp [htruthy, isTruthy_bool]
    | true =>
      cases (right.forPath path.toList).eval env with
      | error fault => simp [htruthy]
      | ok w => simp [htruthy, isTruthy_bool]

/-- Alternatives joined from the left are asked from the left. -/
theorem decideFor_foldl_or (e : Expr) (es : List Expr) :
    decideFor env (some (es.foldl (.binary .or) e)) path =
      anyInOrder (fun e => decideFor env (some e) path) (e :: es) := by
  induction es generalizing e with
  | nil =>
    rw [List.foldl_nil, anyInOrder]
    cases decideFor env (some e) path with
    | error fault => rfl
    | ok holds => cases holds <;> rfl
  | cons next es ih =>
    rw [List.foldl_cons, ih, anyInOrder, decideFor_or, anyInOrder]
    cases decideFor env (some e) path with
    | error fault => rfl
    | ok holds =>
      cases holds with
      | true => rfl
      | false => rw [anyInOrder]

theorem decideFor_both (guard : Option Expr) (es : List Expr) :
    decideFor env (both guard (anyOf es)) path =
      inOrder (fun e => decideFor env (some e) path) guard es := by
  cases es with
  | nil =>
    cases guard with
    | none => rfl
    | some g =>
      rw [anyOf, both, inOrder, alternativesInOrder]
      cases decideFor env (some g) path with
      | error fault => rfl
      | ok holds => cases holds <;> rfl
  | cons e es =>
    cases guard with
    | none => exact decideFor_foldl_or e es
    | some g =>
      rw [anyOf, both, decideFor_and, decideFor_foldl_or, inOrder, alternativesInOrder]
      rfl

end Joined

section Reading

variable {sources : List String} {es : List Expr}

theorem exists_of_readAll_cons {source : String} (h : readAll (source :: sources) = .ok es) :
    ∃ e others, read source = .ok e ∧ readAll sources = .ok others ∧ es = e :: others := by
  rw [readAll] at h
  split at h
  · cases h
  · next e hread =>
    split at h
    · cases h
    · next others hothers =>
      cases h
      exact ⟨e, others, hread, hothers, rfl⟩

theorem readAll_append (first second : List String) :
    readAll (first ++ second) =
      match readAll first with
      | .error fault => .error fault
      | .ok es =>
        match readAll second with
        | .error fault => .error fault
        | .ok others => .ok (es ++ others) := by
  induction first with
  | nil =>
    rw [List.nil_append, readAll]
    cases readAll second <;> rfl
  | cons source first ih =>
    rw [List.cons_append, readAll, readAll, ih]
    cases read source with
    | error fault => rfl
    | ok e =>
      cases readAll first with
      | error fault => rfl
      | ok es => cases readAll second <;> rfl

theorem exists_readAll (h : ∀ source ∈ sources, ∃ e, parse source = .ok e) :
    ∃ es, readAll sources = .ok es := by
  induction sources with
  | nil => exact ⟨[], rfl⟩
  | cons source sources ih =>
    obtain ⟨e, hparse⟩ := h source List.mem_cons_self
    obtain ⟨es, hes⟩ := ih fun other hother => h other (List.mem_cons_of_mem source hother)
    exact ⟨e :: es, by rw [readAll, read, hparse, hes]⟩

/-- What is wrong with several conditions is what is wrong with the first that cannot be read. -/
theorem readAll_of_unreadable (h : ∃ source ∈ sources, ∃ fault, parse source = .error fault) :
    ∃ before source after fault, sources = before ++ source :: after ∧
      (∀ earlier ∈ before, ∃ e, parse earlier = .ok e) ∧ parse source = .error fault ∧
      readAll sources = .error (.wording source fault) := by
  induction sources with
  | nil =>
    obtain ⟨source, hsource, -⟩ := h
    exact absurd hsource List.not_mem_nil
  | cons first sources ih =>
    cases hparse : parse first with
    | error fault =>
      refine ⟨[], first, sources, fault, rfl, ?_, hparse, by rw [readAll, read, hparse]⟩
      intro earlier hearlier
      exact absurd hearlier List.not_mem_nil
    | ok e =>
      have hothers : ∃ source ∈ sources, ∃ fault, parse source = .error fault := by
        obtain ⟨source, hsource, fault, hfault⟩ := h
        rcases List.mem_cons.mp hsource with rfl | hsource
        · rw [hparse] at hfault
          cases hfault
        · exact ⟨source, hsource, fault, hfault⟩
      obtain ⟨before, source, after, fault, rfl, hbefore, hfault, hreadAll⟩ := ih hothers
      refine ⟨first :: before, source, after, fault, rfl, ?_, hfault, ?_⟩
      · intro earlier hearlier
        rcases List.mem_cons.mp hearlier with rfl | hearlier
        · exact ⟨e, hparse⟩
        · exact hbefore earlier hearlier
      · rw [readAll, read, hparse, hreadAll]

theorem answer_of_read {env : Environment} {path source : String} {e : Expr}
    (h : read source = .ok e) : answer env path source = decideFor env (some e) path := by
  rw [answer, h, decideFor]
  dsimp only
  cases (e.forPath path.toList).eval env <;> rfl

/-- Conditions that can be read answer as what they are read as. -/
theorem anyInOrder_of_readAll {env : Environment} {path : String} (h : readAll sources = .ok es) :
    anyInOrder (answer env path) sources =
      anyInOrder (fun e => decideFor env (some e) path) es := by
  induction sources generalizing es with
  | nil =>
    cases h
    rfl
  | cons source sources ih =>
    obtain ⟨e, others, hread, hothers, rfl⟩ := exists_of_readAll_cons h
    rw [anyInOrder, anyInOrder, answer_of_read hread, ih hothers]

theorem isEmpty_of_readAll (h : readAll sources = .ok es) : sources.isEmpty = es.isEmpty := by
  cases sources with
  | nil =>
    cases h
    rfl
  | cons source sources =>
    obtain ⟨e, others, -, -, rfl⟩ := exists_of_readAll_cons h
    rfl

end Reading

section Attributes

variable {a : Attribute} {env : Environment} {path : String}

theorem ofAttribute_eq (a : Attribute) :
    ofAttribute a =
      match readAll a.guards with
      | .error fault => .error fault
      | .ok guard =>
        match readAll a.alternatives with
        | .error fault => .error fault
        | .ok es => .ok (both guard.head? (anyOf es)) := rfl

theorem ofAttribute_of_readAll {guard es : List Expr} (hguard : readAll a.guards = .ok guard)
    (hes : readAll a.alternatives = .ok es) :
    ofAttribute a = .ok (both guard.head? (anyOf es)) := by
  rw [ofAttribute_eq, hguard, hes]

theorem ofAttribute_of_unreadable {fault : PredicateFault}
    (h : readAll (a.guards ++ a.alternatives) = .error fault) : ofAttribute a = .error fault := by
  rw [readAll_append] at h
  rw [ofAttribute_eq]
  cases hguard : readAll a.guards with
  | error other =>
    rw [hguard] at h
    cases h
    rfl
  | ok guard =>
    cases hes : readAll a.alternatives with
    | error other =>
      rw [hguard, hes] at h
      cases h
      rfl
    | ok es =>
      rw [hguard, hes] at h
      cases h

/-- An attribute has no predicate exactly if none of its conditions says anything. -/
theorem ofAttribute_eq_ok_none_iff : ofAttribute a = .ok none ↔ a.isConditional = false := by
  rw [Attribute.isConditional_eq_false_iff]
  constructor
  · intro h
    cases hall : readAll (a.guards ++ a.alternatives) with
    | error fault =>
      rw [ofAttribute_of_unreadable hall] at h
      cases h
    | ok all =>
      rw [readAll_append] at hall
      cases hguard : readAll a.guards with
      | error fault =>
        rw [hguard] at hall
        cases hall
      | ok guard =>
        cases halternatives : readAll a.alternatives with
        | error fault =>
          rw [hguard, halternatives] at hall
          cases hall
        | ok es =>
          rw [ofAttribute_of_readAll hguard halternatives] at h
          have hguards := isEmpty_of_readAll hguard
          have hes := isEmpty_of_readAll halternatives
          cases guard with
          | nil =>
            cases es with
            | nil => exact ⟨List.isEmpty_iff.mp hguards, List.isEmpty_iff.mp hes⟩
            | cons e es => cases h
          | cons g guard => cases es <;> cases h
  · rintro ⟨hguards, halternatives⟩
    have hguard : readAll a.guards = .ok [] := by rw [hguards, readAll]
    have hes : readAll a.alternatives = .ok [] := by rw [halternatives, readAll]
    rw [ofAttribute_of_readAll hguard hes]
    rfl

/-- If all conditions can be read, the predicate answers as they do in order. -/
theorem isVisible_of_readable
    (h : ∀ source ∈ a.guards ++ a.alternatives, ∃ e, parse source = .ok e) :
    isVisible env a path = inOrder (answer env path) a.guards.head? a.alternatives := by
  obtain ⟨guard, hguard⟩ := exists_readAll fun source hsource =>
    h source (List.mem_append_left a.alternatives hsource)
  obtain ⟨es, hes⟩ := exists_readAll fun source hsource =>
    h source (List.mem_append_right a.guards hsource)
  have halternatives : alternativesInOrder (answer env path) a.alternatives =
      alternativesInOrder (fun e => decideFor env (some e) path) es := by
    rw [alternativesInOrder, alternativesInOrder, isEmpty_of_readAll hes, anyInOrder_of_readAll hes]
  rw [isVisible, ofAttribute_of_readAll hguard hes]
  dsimp only
  rw [decideFor_both]
  cases hguards : a.guards with
  | nil =>
    rw [hguards] at hguard
    cases hguard
    exact halternatives.symm
  | cons source guards =>
    rw [hguards] at hguard
    obtain ⟨g, others, hread, -, rfl⟩ := exists_of_readAll_cons hguard
    rw [List.head?_cons, List.head?_cons, inOrder, inOrder, answer_of_read hread, halternatives]

end Attributes

/-- An attribute always applies exactly if none of its conditions says anything. Otherwise the first
condition that cannot be read is the fault, whatever the state; and if all can be read, they are
asked in order. -/
theorem decide_asks_in_order (known supplied : Entries) (a : Attribute) (path : String) :
    (a.isConditional = false ↔ ofAttribute a = .ok none) ∧
    (a.isConditional = false → ((Judge.ofState known supplied).decide a path).2 = .ok true) ∧
    ((∃ source ∈ a.guards ++ a.alternatives, ∃ fault, parse source = .error fault) →
      ∃ before source after fault, a.guards ++ a.alternatives = before ++ source :: after ∧
        (∀ earlier ∈ before, ∃ e, parse earlier = .ok e) ∧ parse source = .error fault ∧
        ((Judge.ofState known supplied).decide a path).2 = .error (.wording source fault)) ∧
    ((∀ source ∈ a.guards ++ a.alternatives, ∃ e, parse source = .ok e) →
      ((Judge.ofState known supplied).decide a path).2 =
        inOrder (answer (.build known supplied) path) a.guards.head? a.alternatives) := by
  have hdecide : ((Judge.ofState known supplied).decide a path).2 =
      isVisible (.build known supplied) a path :=
    Judge.decide_of_knows (Judge.knows_ofState known supplied a) path
  rw [hdecide]
  refine ⟨ofAttribute_eq_ok_none_iff.symm, ?_, ?_, isVisible_of_readable⟩
  · intro hplain
    rw [isVisible, ofAttribute_eq_ok_none_iff.mpr hplain]
    rfl
  · intro hunreadable
    obtain ⟨before, source, after, fault, hsplit, hbefore, hfault, hread⟩ :=
      readAll_of_unreadable hunreadable
    refine ⟨before, source, after, fault, hsplit, hbefore, hfault, ?_⟩
    rw [isVisible, ofAttribute_of_unreadable hread]

theorem decide_asks_in_order_box :
    let box : Attribute :=
      { key := "box", when := "listed", conditions := [" ", "size > 2", "tall", "size < listed"] }
    let broken : Attribute := { key := "lid", when := "listed", conditions := ["size >", "a b"] }
    let plain : Attribute := { key := "label", when := " ", conditions := [] }
    let supplied : Entries := [("listed", .str "true"), ("size", .str "1"), ("tall", .str "[0]")]
    (∀ source ∈ box.guards ++ box.alternatives, ∃ e, parse source = .ok e) ∧
      ((Judge.ofState [] supplied).decide box "box").2 =
        inOrder (answer (.build [] supplied) "box") box.guards.head? box.alternatives ∧
      (∃ source ∈ broken.guards ++ broken.alternatives, ∃ fault, parse source = .error fault) ∧
      (∃ before source after fault, broken.guards ++ broken.alternatives =
          before ++ source :: after ∧
        (∀ earlier ∈ before, ∃ e, parse earlier = .ok e) ∧ parse source = .error fault ∧
        ((Judge.ofState [] supplied).decide broken "lid").2 = .error (.wording source fault)) ∧
      plain.isConditional = false ∧
      ((Judge.ofState [] supplied).decide plain "label").2 = .ok true := by
  intro box broken plain supplied
  have hsources : box.guards ++ box.alternatives =
      ["listed", "size > 2", "tall", "size < listed"] := by decide +kernel
  have hreadable : ∀ source ∈ box.guards ++ box.alternatives, ∃ e, parse source = .ok e := by
    rw [hsources]
    intro source hsource
    apply exists_eq_ok_of_isSome_toOption
    revert source
    decide +kernel
  have hbroken : broken.guards ++ broken.alternatives = ["listed", "size >", "a b"] := by
    decide +kernel
  have hunread : (parse "size >").toOption.isSome = false := by decide +kernel
  have hunreadable : ∃ source ∈ broken.guards ++ broken.alternatives,
      ∃ fault, parse source = .error fault := by
    rw [hbroken]
    refine ⟨"size >", by simp, ?_⟩
    cases hparse : parse "size >" with
    | error fault => exact ⟨fault, rfl⟩
    | ok e =>
      rw [hparse] at hunread
      cases hunread
  have hplain : plain.isConditional = false := by decide +kernel
  obtain ⟨-, -, -, hinOrder⟩ := decide_asks_in_order [] supplied box "box"
  obtain ⟨-, -, hfault, -⟩ := decide_asks_in_order [] supplied broken "lid"
  obtain ⟨-, happlies, -, -⟩ := decide_asks_in_order [] supplied plain "label"
  exact ⟨hreadable, hinOrder hreadable, hunreadable, hfault hunreadable, hplain, happlies hplain⟩

end Predicate
end NextWord
