import NextWord.Predicate.Visibility

/-!
# Judges that remember

A judge keeps the predicates that it has read under the keys of their attributes. While what it
keeps for an attribute is the predicate of that attribute, its answers are those of the predicate
itself; and asking it about one attribute keeps this true of every other that has a key of its own
or the same conditions. So a judge may be asked any number of questions: it answers each as one that
was never asked before.
-/

namespace NextWord

/-- The predicate of an attribute is made of its conditions and nothing else. -/
theorem Predicate.ofAttribute_congr {a b : Attribute} (hwhen : a.when = b.when)
    (hconditions : a.conditions = b.conditions) : ofAttribute a = ofAttribute b := by
  rw [ofAttribute, ofAttribute, hwhen, hconditions]

namespace Judge

variable {j : Judge} {a b : Attribute}

/-- What a judge keeps under the key of an attribute, if anything, is the predicate of that
attribute. -/
def Knows (j : Judge) (a : Attribute) : Prop :=
  ∀ predicate, j.known.find? a.key = some predicate → Predicate.ofAttribute a = .ok predicate

theorem knows_ofState (known supplied : Entries) (a : Attribute) :
    (ofState known supplied).Knows a := by
  intro predicate h
  cases h

theorem predicateOf_of_knows (h : j.Knows a) :
    (j.predicateOf a).2 = Predicate.ofAttribute a := by
  rw [predicateOf]
  cases hfound : j.known.find? a.key with
  | some predicate => exact (h predicate hfound).symm
  | none => cases hread : Predicate.ofAttribute a <;> rfl

theorem environment_predicateOf (j : Judge) (a : Attribute) :
    (j.predicateOf a).1.environment = j.environment := by
  rw [predicateOf]
  cases j.known.find? a.key with
  | some predicate => rfl
  | none => cases Predicate.ofAttribute a <;> rfl

/-- A predicate is kept under one key, so attributes with other keys are not concerned. -/
theorem knows_predicateOf (hb : j.Knows b)
    (same : b.key = a.key → Predicate.ofAttribute b = Predicate.ofAttribute a) :
    (j.predicateOf a).1.Knows b := by
  rw [predicateOf]
  cases hfound : j.known.find? a.key with
  | some predicate => exact hb
  | none =>
    cases hread : Predicate.ofAttribute a with
    | error fault => exact hb
    | ok predicate =>
      intro kept hkept
      by_cases hkey : b.key = a.key
      · have hsame : some predicate = some kept := by simpa [hkey] using hkept
        obtain rfl := Option.some.inj hsame
        exact (same hkey).trans hread
      · have hother := Table.find?_put_of_ne hkey predicate j.known
        exact hb kept (hother.symm.trans hkept)

theorem decide_eq (j : Judge) (a : Attribute) (path : String) :
    j.decide a path = ((j.predicateOf a).1,
      match (j.predicateOf a).2 with
      | .error fault => .error fault
      | .ok predicate =>
        Predicate.decideFor (j.predicateOf a).1.environment predicate path) := by
  rw [decide]
  split
  · next hanswer => rw [hanswer]
  · next hanswer => rw [hanswer]

/-- A judge that knows an attribute answers as its predicate does. -/
theorem decide_of_knows (h : j.Knows a) (path : String) :
    (j.decide a path).2 = Predicate.isVisible j.environment a path := by
  rw [decide_eq, predicateOf_of_knows h, environment_predicateOf]
  rfl

theorem environment_decide (j : Judge) (a : Attribute) (path : String) :
    (j.decide a path).1.environment = j.environment := by
  rw [decide_eq, environment_predicateOf]

theorem knows_decide (hb : j.Knows b)
    (same : b.key = a.key → Predicate.ofAttribute b = Predicate.ofAttribute a) (path : String) :
    (j.decide a path).1.Knows b := by
  rw [decide_eq]
  exact knows_predicateOf hb same

section Questions

/-- The answers of a judge to questions that it is asked in turn, each about an attribute and a
path. -/
def decideAll : Judge → List (Attribute × String) → List (Except PredicateFault Bool)
  | _, [] => []
  | j, (a, path) :: questions => (j.decide a path).2 :: (j.decide a path).1.decideAll questions

/-- Attributes with the same key have the same conditions. -/
def SameConditions (questions : List (Attribute × String)) : Prop :=
  ∀ q ∈ questions, ∀ r ∈ questions, q.1.key = r.1.key →
    q.1.when = r.1.when ∧ q.1.conditions = r.1.conditions

theorem SameConditions.tail {q : Attribute × String} {questions : List (Attribute × String)}
    (h : SameConditions (q :: questions)) : SameConditions questions :=
  fun r hr s hs => h r (List.mem_cons_of_mem q hr) s (List.mem_cons_of_mem q hs)

/-- A question leaves a judge that knows the attributes of the others, whatever it answers. -/
theorem knows_of_sameConditions {path : String} {questions : List (Attribute × String)}
    (same : SameConditions ((a, path) :: questions))
    (knows : ∀ q ∈ (a, path) :: questions, j.Knows q.1) :
    ∀ q ∈ questions, (j.decide a path).1.Knows q.1 := by
  intro q hq
  have hmem : q ∈ (a, path) :: questions := List.mem_cons_of_mem _ hq
  apply knows_decide (knows q hmem)
  intro hkey
  obtain ⟨hwhen, hconditions⟩ := same q hmem (a, path) List.mem_cons_self hkey
  exact Predicate.ofAttribute_congr hwhen hconditions

theorem decideAll_eq_map {questions : List (Attribute × String)} (same : SameConditions questions)
    (knows : ∀ q ∈ questions, j.Knows q.1) :
    j.decideAll questions = questions.map fun q => Predicate.isVisible j.environment q.1 q.2 := by
  induction questions generalizing j with
  | nil => rfl
  | cons q questions ih =>
    obtain ⟨a, path⟩ := q
    have hfirst : (j.decide a path).2 = Predicate.isVisible j.environment a path :=
      decide_of_knows (knows _ List.mem_cons_self) path
    have hrest := ih same.tail (knows_of_sameConditions same knows)
    rw [environment_decide] at hrest
    rw [decideAll, hfirst, hrest, List.map_cons]

/-- What a judge remembers of earlier questions, failed ones among them, does not show: it answers
each question as a new judge of the same state does. -/
theorem decideAll_as_new (known supplied : Entries) (questions : List (Attribute × String))
    (same : ∀ q ∈ questions, ∀ r ∈ questions, q.1.key = r.1.key →
      q.1.when = r.1.when ∧ q.1.conditions = r.1.conditions) :
    (ofState known supplied).decideAll questions =
      questions.map fun q => ((ofState known supplied).decide q.1 q.2).2 := by
  have hknows : ∀ a, (ofState known supplied).Knows a := knows_ofState known supplied
  rw [decideAll_eq_map same fun q _ => hknows q.1]
  apply List.map_congr_left
  intro q _
  exact (decide_of_knows (hknows q.1) q.2).symm

theorem decideAll_as_new_parts :
    let part : Attribute := { key := "items[n].part", when := "items[n].size > 2" }
    let linked : Attribute := { part with type := { kind := .url }, usage := "where it is from" }
    let lid : Attribute := { key := "lid", conditions := ["size >"] }
    let label : Attribute := { key := "label", when := "listed < [2]" }
    let supplied : Entries :=
      [("listed", .str "true"), ("items[0].size", .str "3"), ("items[1].size", .str "1")]
    let questions := [(part, "items[0].part"), (lid, "lid"), (linked, "items[1].part"),
      (label, "label"), (lid, "lid"), (part, "items[0].part"), (label, "label")]
    (∀ q ∈ questions, ∀ r ∈ questions, q.1.key = r.1.key →
        q.1.when = r.1.when ∧ q.1.conditions = r.1.conditions) ∧
      (ofState [] supplied).decideAll questions =
        questions.map (fun q => ((ofState [] supplied).decide q.1 q.2).2) ∧
      ((ofState [] supplied).decideAll questions).map Except.toOption =
        [some true, none, some false, none, none, some true, none] := by
  intro part linked lid label supplied questions
  have same : ∀ q ∈ questions, ∀ r ∈ questions, q.1.key = r.1.key →
      q.1.when = r.1.when ∧ q.1.conditions = r.1.conditions := by decide +kernel
  have hanswers : ((ofState [] supplied).decideAll questions).map Except.toOption =
      [some true, none, some false, none, none, some true, none] := by decide +kernel
  exact ⟨same, decideAll_as_new [] supplied questions same, hanswers⟩

end Questions

end Judge
end NextWord
