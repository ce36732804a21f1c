import NextWord.Proofs.Completion.Combined
import NextWord.Proofs.Completion.LiteralKeys

/-!
# The attribute keys that are offered

Beside the literal attributes, the patterns that can be read offer the free paths that their tree
completes to, once it knows the supplied ones. A pattern that cannot be read is as good as none.

Two things end the offer altogether: a predicate that fails with more than a fault of its own, and a
pattern that asks for more rounds than can be counted. Such a pattern is not among those that are
left out, though it cannot be read either.
-/

namespace NextWord

open NextWord.Path (resolveHoles)

namespace PatternTree

/-- A tree with one more pattern, or the same if the pattern is refused. -/
def withPattern (tree : PatternTree) (a : Attribute) : PatternTree :=
  (tree.add a.key.toList).toOption.getD tree

/-- The tree of those patterns of attributes that can be read. -/
def ofPatterns (attributes : List Attribute) : PatternTree :=
  attributes.foldl withPattern empty

theorem add_eq_error_iff {tree : PatternTree} {pattern : List Char} {fault : PatternFault} :
    tree.add pattern = .error fault ↔ Pattern.parse pattern = .error fault := by
  rw [add]
  cases hparse : Pattern.parse pattern with
  | error other => simp
  | ok segments =>
    cases segments with
    | nil => simp
    | cons first more => simp

end PatternTree

namespace Pattern

def isAccepted (key : String) : Bool :=
  (parse key.toList).toOption.isSome

/-- Whether a key asks for more rounds than can be counted. -/
def Uncountable (key : String) : Prop :=
  parse key.toList = .error .tooManyRounds

end Pattern

namespace PatternTree

theorem withPattern_of_not_isAccepted {tree : PatternTree} {a : Attribute}
    (h : Pattern.isAccepted a.key = false) : tree.withPattern a = tree := by
  cases hparse : Pattern.parse a.key.toList with
  | ok segments => simp [Pattern.isAccepted, hparse, Except.toOption] at h
  | error fault => simp [withPattern, add_eq_error_iff.mpr hparse, Except.toOption]

/-- Patterns that are refused leave no trace in the tree. -/
theorem ofPatterns_filter_isAccepted (attributes : List Attribute) :
    ofPatterns (attributes.filter fun a => Pattern.isAccepted a.key) = ofPatterns attributes := by
  rw [ofPatterns, ofPatterns, List.foldl_filter]
  congr 1
  funext tree a
  split
  · rfl
  · next h => exact (withPattern_of_not_isAccepted (by simpa using h)).symm

end PatternTree

namespace Context

variable {ctx : Context} {r : Request}

theorem growTree_cons (resource : String) (tree : PatternTree) (a : Attribute)
    (rest : List Attribute) :
    growTree resource tree (a :: rest) =
      match tree.add a.key.toList with
      | .ok grown => growTree resource grown rest
      | .error .tooManyRounds => .fail .tooManyRounds
      | .error fault => (Logged.write [.warning
          s!"Skipping attribute {a.key} of {resource}: {fault.message a.key}"]).bind fun _ =>
        growTree resource tree rest := by
  rw [growTree]
  rfl

/-- A pattern that can be counted goes into the tree, or is left out with no more than a report. -/
theorem result_growTree_cons {resource : String} {tree : PatternTree} {a : Attribute}
    {rest : List Attribute} (h : ¬ Pattern.Uncountable a.key) :
    (growTree resource tree (a :: rest)).result =
      (growTree resource (tree.withPattern a) rest).result := by
  rw [growTree_cons, PatternTree.withPattern]
  cases hadd : tree.add a.key.toList with
  | ok grown => rfl
  | error fault =>
    have hfault : fault ≠ .tooManyRounds := by
      rintro rfl
      exact h (PatternTree.add_eq_error_iff.mp hadd)
    cases fault with
    | tooManyRounds => exact absurd rfl hfault
    | _ => rfl

theorem result_growTree_of_uncountable {resource : String} {tree : PatternTree} {a : Attribute}
    {rest : List Attribute} (h : Pattern.Uncountable a.key) :
    (growTree resource tree (a :: rest)).result = .error .tooManyRounds := by
  rw [growTree_cons, PatternTree.add_eq_error_iff.mpr h]
  rfl

/-- The tree grows to the end exactly if all patterns can be counted, and then it is the tree of
those that can be read. -/
theorem growTree_eq_ok_iff {resource : String} {attributes : List Attribute}
    {tree grown : PatternTree} :
    (growTree resource tree attributes).result = .ok grown ↔
      (∀ a ∈ attributes, ¬ Pattern.Uncountable a.key) ∧
        grown = attributes.foldl PatternTree.withPattern tree := by
  induction attributes generalizing tree with
  | nil =>
    have hnil : (growTree resource tree []).result = .ok tree := rfl
    simp [hnil, eq_comm]
  | cons a rest ih =>
    rw [List.forall_mem_cons, List.foldl_cons]
    by_cases h : Pattern.Uncountable a.key
    · simp [result_growTree_of_uncountable h, h]
    · simp [result_growTree_cons h, h, ih]

theorem learnedKeys_empty (r : Request) : learnedKeys r .empty = [] := by
  have hroot (paths : List String) :
      (paths.foldl (fun tree path => tree.observe path.toList) PatternTree.empty).root = none := by
    induction paths with
    | nil => rfl
    | cons path paths ih => exact ih
  rw [learnedKeys, PatternTree.completions, hroot]
  rfl

/-- Literal attributes come first, and then what the patterns grow into; without a resource there are
none of either. -/
theorem exists_attributeKeys_eq_bind (ctx : Context) (r : Request) : ∃ name,
    ctx.attributeKeys r = (ctx.literalPaths r (ctx.literals r)).bind fun literal =>
      (growTree name .empty (ctx.patterned r)).bind fun tree =>
        .pure (literal ++ (learnedKeys r tree).flatMap r.freePaths) := by
  rw [attributeKeys, literals, patterned, selected, selected]
  cases ctx.resource? r with
  | some resource => exact ⟨resource.name, rfl⟩
  | none =>
    have hpaths : ctx.literalPaths r [] = .pure [] := rfl
    have htree : growTree "" .empty [] = .pure .empty := rfl
    refine ⟨"", ?_⟩
    rw [hpaths, Logged.pure_bind]
    simp only [htree, Logged.pure_bind, learnedKeys_empty]
    rfl

/-- The keys are the paths that literal attributes offer and the free paths that the tree of the
readable patterns completes to. -/
theorem attributeKeys_eq_ok_iff {keys : List String} :
    (ctx.attributeKeys r).result = .ok keys ↔ ∃ literal,
      (ctx.literalPaths r (ctx.literals r)).result = .ok literal ∧
        (∀ a ∈ ctx.patterned r, ¬ Pattern.Uncountable a.key) ∧
        keys = literal ++ (learnedKeys r (.ofPatterns (ctx.patterned r))).flatMap r.freePaths := by
  obtain ⟨name, hkeys⟩ := exists_attributeKeys_eq_bind ctx r
  rw [hkeys, Logged.result_bind_eq_ok_iff]
  refine exists_congr fun literal => and_congr_right fun _ => ?_
  rw [Logged.result_bind_eq_ok_iff]
  simp only [growTree_eq_ok_iff, Logged.result_pure, Except.ok.injEq]
  constructor
  · rintro ⟨tree, ⟨hcountable, rfl⟩, rfl⟩
    exact ⟨hcountable, rfl⟩
  · rintro ⟨hcountable, rfl⟩
    exact ⟨_, ⟨hcountable, rfl⟩, rfl⟩

/-- The paths that the patterns of a request complete to once its supplied paths are known. -/
def completedPaths (ctx : Context) (r : Request) : List String :=
  (learnedKeys r (.ofPatterns (ctx.patterned r))).flatMap fun template =>
    resolveHoles template r.supplied.keys

theorem mem_flatMap_freePaths {templates : List String} {path : String} :
    path ∈ templates.flatMap r.freePaths ↔ r.supplied.has path = false ∧
      path ∈ templates.flatMap fun template => resolveHoles template r.supplied.keys := by
  simp only [Request.freePaths, List.mem_flatMap, List.mem_filter, Bool.not_eq_true']
  constructor
  · rintro ⟨template, htemplate, hpath, hfree⟩
    exact ⟨hfree, template, htemplate, hpath⟩
  · rintro ⟨hfree, template, htemplate, hpath⟩
    exact ⟨template, htemplate, hpath, hfree⟩

/-- No predicate that is asked for a free path fails with more than a fault of its own. -/
def FaultsAreOwn (ctx : Context) (r : Request) : Prop :=
  ∀ a ∈ ctx.literals r, ∀ path ∈ r.freePaths a.key, ∀ fault,
    Predicate.isVisible (.build r.known r.supplied) a path = .error fault → fault.isOwn = true

theorem keysApart_literals (keyed : ctx.registry.AllWellKeyed) :
    ∀ a ∈ ctx.literals r, ∀ b ∈ ctx.literals r, a.key = b.key → a = b := by
  intro a ha b hb
  obtain ⟨resource, hresource, ha⟩ := exists_resource_of_mem_selected ha
  obtain ⟨other, hother, hb⟩ := exists_resource_of_mem_selected hb
  obtain rfl := Option.some.inj (hresource.symm.trans hother)
  exact eq_of_key_eq (keyed.of_get? hresource) (List.mem_filter.mp ha).1 (List.mem_filter.mp hb).1

/-- Keys are found exactly if neither a predicate nor a pattern ends the offer. -/
theorem exists_attributeKeys_iff (keyed : ctx.registry.AllWellKeyed)
    (checked : ctx.skipVisibility r = false) :
    (∃ keys, (ctx.attributeKeys r).result = .ok keys) ↔
      ctx.FaultsAreOwn r ∧ ∀ a ∈ ctx.patterned r, ¬ Pattern.Uncountable a.key := by
  rw [FaultsAreOwn, ← exists_literalPaths_iff checked (keysApart_literals keyed)]
  simp only [attributeKeys_eq_ok_iff]
  constructor
  · rintro ⟨keys, literal, hliteral, hcountable, -⟩
    exact ⟨⟨literal, hliteral⟩, hcountable⟩
  · rintro ⟨⟨literal, hliteral⟩, hcountable⟩
    exact ⟨_, literal, hliteral, hcountable, rfl⟩

/-- A path is among the keys if it is free and a pattern completes to it or a literal attribute is
offered under it. -/
theorem mem_attributeKeys_iff (keyed : ctx.registry.AllWellKeyed)
    (checked : ctx.skipVisibility r = false) {keys : List String}
    (h : (ctx.attributeKeys r).result = .ok keys) {path : String} :
    path ∈ keys ↔ r.supplied.has path = false ∧ (path ∈ ctx.completedPaths r ∨
      ∃ a ∈ ctx.literals r, path ∈ resolveHoles a.key r.supplied.keys ∧
        Predicate.Admits (.build r.known r.supplied) a path) := by
  obtain ⟨literal, hliteral, -, rfl⟩ := attributeKeys_eq_ok_iff.mp h
  have hoffered : path ∈ literal ↔ r.supplied.has path = false ∧
      ∃ a ∈ ctx.literals r, path ∈ resolveHoles a.key r.supplied.keys ∧
        Predicate.Admits (.build r.known r.supplied) a path := by
    rw [mem_literalPaths_iff checked (keysApart_literals keyed) hliteral]
    simp only [Request.freePaths, List.mem_filter, Bool.not_eq_true']
    constructor
    · rintro ⟨a, ha, ⟨hpath, hfree⟩, hadmits⟩
      exact ⟨hfree, a, ha, hpath, hadmits⟩
    · rintro ⟨hfree, a, ha, hpath, hadmits⟩
      exact ⟨a, ha, ⟨hpath, hfree⟩, hadmits⟩
  rw [List.mem_append, mem_flatMap_freePaths, hoffered, ← and_or_left, or_comm]
  rfl

end Context

section WithoutRefused

/-- A resource without the attributes whose patterns cannot be read. -/
def Resource.withoutRefused (resource : Resource) : Resource :=
  { resource with
    attributes := resource.attributes.filter fun entry =>
      !entry.2.isPattern || Pattern.isAccepted entry.2.key }

def Registry.withoutRefused (registry : Registry) : Registry where
  resources := registry.resources.map fun entry => (entry.1, entry.2.withoutRefused)
  singular := registry.singular.map fun entry => (entry.1, entry.2.withoutRefused)

def Context.withoutRefused (ctx : Context) : Context :=
  { ctx with registry := ctx.registry.withoutRefused }

theorem Resource.literalAttributes_withoutRefused (resource : Resource) :
    resource.withoutRefused.literalAttributes = resource.literalAttributes := by
  simp only [literalAttributes, withoutRefused, Table.values, List.filter_map, List.filter_filter]
  congr 2
  funext entry
  cases hpattern : entry.2.isPattern <;> simp [hpattern]

theorem Resource.patternAttributes_withoutRefused (resource : Resource) :
    resource.withoutRefused.patternAttributes =
      resource.patternAttributes.filter fun a => Pattern.isAccepted a.key := by
  simp only [patternAttributes, withoutRefused, Table.values, List.filter_map, List.filter_filter]
  congr 2
  funext entry
  cases hpattern : entry.2.isPattern <;> simp [hpattern]

theorem Registry.get?_withoutRefused (registry : Registry) (name : String) :
    registry.withoutRefused.get? name = (registry.get? name).map Resource.withoutRefused := by
  simp only [get?, withoutRefused, Table.find?_map]
  cases registry.resources.find? name <;> rfl

namespace Context

variable {ctx : Context} {r : Request}

theorem resource?_withoutRefused :
    ctx.withoutRefused.resource? r = (ctx.resource? r).map Resource.withoutRefused := by
  rw [resource?, resource?]
  split
  · rfl
  · exact ctx.registry.get?_withoutRefused r.resource

theorem literals_withoutRefused : ctx.withoutRefused.literals r = ctx.literals r := by
  rw [literals, literals, selected, selected, resource?_withoutRefused]
  cases ctx.resource? r with
  | none => rfl
  | some resource => exact resource.literalAttributes_withoutRefused

theorem patterned_withoutRefused : ctx.withoutRefused.patterned r =
    (ctx.patterned r).filter fun a => Pattern.isAccepted a.key := by
  rw [patterned, patterned, selected, selected, resource?_withoutRefused]
  cases ctx.resource? r with
  | none => rfl
  | some resource => exact resource.patternAttributes_withoutRefused

/-- Patterns that cannot be read change nothing about the keys. -/
theorem attributeKeys_withoutRefused {keys : List String}
    (h : (ctx.attributeKeys r).result = .ok keys) :
    (ctx.withoutRefused.attributeKeys r).result = .ok keys := by
  obtain ⟨literal, hliteral, hcountable, rfl⟩ := attributeKeys_eq_ok_iff.mp h
  rw [attributeKeys_eq_ok_iff, literals_withoutRefused, patterned_withoutRefused,
    PatternTree.ofPatterns_filter_isAccepted]
  exact ⟨literal, hliteral, fun a ha => hcountable a (List.mem_filter.mp ha).1, rfl⟩

end Context

end WithoutRefused

theorem Answer.exists_of_mem_distinct_texts {texts : List String} {v : Value}
    (h : v ∈ distinct (texts.map Value.str)) : ∃ text ∈ texts, v = .str text := by
  obtain ⟨text, htext, rfl⟩ := List.mem_map.mp (mem_of_mem_distinct h)
  exact ⟨text, htext, rfl⟩

theorem Answer.mem_distinct_texts {texts : List String} {text : String} :
    .str text ∈ distinct (texts.map Value.str) ↔ text ∈ texts := by
  constructor
  · intro h
    obtain ⟨other, hother, hsame⟩ := exists_of_mem_distinct_texts h
    exact Value.str.inj hsame ▸ hother
  · intro h
    have hhashable : ∀ v ∈ texts.map Value.str, v.isHashable = true := by
      simp [Value.isHashable]
    have hself : (Value.str text).same (.str text) = true := by
      simp [Value.same, Value.sameScalar]
    obtain ⟨first, hfirst, hsame⟩ :=
      exists_mem_distinct_same hhashable (List.mem_map_of_mem h) hself
    obtain ⟨other, -, rfl⟩ := exists_of_mem_distinct_texts hfirst
    have hequal : other = text := by simpa [Value.same, Value.sameScalar] using hsame
    exact hequal ▸ hfirst

namespace Context

/-- The answer to a request for attribute keys alone. -/
theorem collect_attributeKey_eq_ok_iff {ctx : Context} {depth : Nat} {r : Request}
    {answer : Answer} :
    (ctx.collect (depth + 1) (r.only .attributeKey)).result = .ok answer ↔ ∃ keys,
      (ctx.attributeKeys r).result = .ok keys ∧
        answer = ⟨Answer.distinct (keys.map Value.str), .usual⟩ := by
  have hoffer {offer : Offer} :
      (ctx.offer (ctx.collect depth) r .attributeKey).result = .ok offer ↔
        ∃ keys, (ctx.attributeKeys r).result = .ok keys ∧ .ofTexts keys = offer := by
    refine Logged.result_bind_eq_ok_iff.trans (exists_congr fun keys => and_congr_right fun _ => ?_)
    constructor
    · exact fun h => Except.ok.inj h
    · rintro rfl
      rfl
  rw [collect_only_eq_ok_iff]
  simp only [hoffer]
  constructor
  · rintro ⟨_, ⟨keys, hkeys, rfl⟩, -, rfl⟩
    exact ⟨keys, hkeys, rfl⟩
  · rintro ⟨keys, hkeys, rfl⟩
    exact ⟨_, ⟨keys, hkeys, rfl⟩, by simp [Offer.ofTexts, Value.isHashable], rfl⟩

/-- A request for attribute keys alone, visibility being checked, has an answer exactly if
predicates fail with faults of their own only and no pattern asks for too many rounds. The answer is
then the same without the attributes whose patterns cannot be read, holds free paths only, and holds
a free path exactly if a pattern completes to it or a literal attribute resolves to it whose
predicate is missing, true or at fault there. -/
theorem collect_attributeKey_outcome (ctx : Context) (depth : Nat) (r : Request)
    (keyed : ctx.registry.AllWellKeyed) (checked : ctx.skipVisibility r = false) :
    ((∃ answer, (ctx.collect (depth + 1) (r.only .attributeKey)).result = .ok answer) ↔
      ctx.FaultsAreOwn r ∧ ∀ a ∈ ctx.patterned r, ¬ Pattern.Uncountable a.key) ∧
    ∀ answer, (ctx.collect (depth + 1) (r.only .attributeKey)).result = .ok answer →
      (ctx.withoutRefused.collect (depth + 1) (r.only .attributeKey)).result = .ok answer ∧
      (∀ v ∈ answer.candidates, ∃ path, v = .str path ∧ r.supplied.has path = false) ∧
      ∀ path, .str path ∈ answer.candidates ↔
        r.supplied.has path = false ∧ (path ∈ ctx.completedPaths r ∨
          ∃ a ∈ ctx.literals r, path ∈ resolveHoles a.key r.supplied.keys ∧
            Predicate.Admits (.build r.known r.supplied) a path) := by
  constructor
  · rw [← exists_attributeKeys_iff keyed checked]
    constructor
    · rintro ⟨answer, hanswer⟩
      obtain ⟨keys, hkeys, -⟩ := collect_attributeKey_eq_ok_iff.mp hanswer
      exact ⟨keys, hkeys⟩
    · rintro ⟨keys, hkeys⟩
      exact ⟨_, collect_attributeKey_eq_ok_iff.mpr ⟨keys, hkeys, rfl⟩⟩
  · intro answer hanswer
    obtain ⟨keys, hkeys, rfl⟩ := collect_attributeKey_eq_ok_iff.mp hanswer
    have hmem (path : String) : path ∈ keys ↔ r.supplied.has path = false ∧ _ :=
      mem_attributeKeys_iff keyed checked hkeys
    refine ⟨?_, ?_, ?_⟩
    · exact collect_attributeKey_eq_ok_iff.mpr ⟨keys, attributeKeys_withoutRefused hkeys, rfl⟩
    · intro v hv
      obtain ⟨path, hpath, rfl⟩ := Answer.exists_of_mem_distinct_texts hv
      exact ⟨path, rfl, ((hmem path).mp hpath).1⟩
    · intro path
      exact Answer.mem_distinct_texts.trans (hmem path)

/-- Attributes of widgets: one with a predicate that cannot be read, one without a predicate, and
one with a pattern. -/
def widgets (pattern : String) : Context :=
  let bare : Registry := Registry.empty.add { name := "widgets" }
  { registry :=
      ((bare.putAttribute "widgets" { key := "size", when := "field_type ==" }).putAttribute
        "widgets" { key := "colour" }).putAttribute "widgets" { key := pattern } }

/-- The keys of widgets are asked for when the colour is already supplied. -/
def widgetKeys : Request :=
  { resource := "widgets", supplied := [("colour", .str "red")] }

theorem allWellKeyed_widgets (pattern : String) : (widgets pattern).registry.AllWellKeyed := by
  refine Registry.allWellKeyed_putAttribute (Registry.allWellKeyed_putAttribute
    (Registry.allWellKeyed_putAttribute ?_ _ _) _ _) _ _
  exact Registry.AllHold.add (P := fun r => WellKeyed r.attributes) Registry.allHold_empty .empty

/-- The only free path of the attributes is that of the size, whose predicate is badly worded. -/
theorem faultsAreOwn_widgets {pattern : String}
    (h : (widgets pattern).literals widgetKeys =
      [{ key := "size", when := "field_type ==" }, { key := "colour" }]) :
    (widgets pattern).FaultsAreOwn widgetKeys := by
  intro a ha path hpath fault hfault
  rw [h] at ha
  have hown : ∀ a ∈ [({ key := "size", when := "field_type ==" } : Attribute), { key := "colour" }],
      ∀ path ∈ widgetKeys.freePaths a.key,
        (match Predicate.isVisible (.build widgetKeys.known widgetKeys.supplied) a path with
          | .error fault => fault.isOwn
          | .ok _ => true) = true := by
    decide +kernel
  simpa [hfault] using hown a ha path hpath

/-- A pattern with a bare dot cannot be read, which does the other attributes no harm. -/
theorem collect_attributeKey_outcome_widgets : ∃ answer,
    ((widgets "^bad.key$").collect 1 (widgetKeys.only .attributeKey)).result = .ok answer ∧
      .str "size" ∈ answer.candidates ∧ .str "colour" ∉ answer.candidates := by
  have hliterals : (widgets "^bad.key$").literals widgetKeys =
      [{ key := "size", when := "field_type ==" }, { key := "colour" }] := by decide +kernel
  have hpatterned : (widgets "^bad.key$").patterned widgetKeys = [{ key := "^bad.key$" }] := by
    decide +kernel
  obtain ⟨hexists, hlaw⟩ := collect_attributeKey_outcome (widgets "^bad.key$") 0 widgetKeys
    (allWellKeyed_widgets _) (by decide +kernel)
  have hcountable : ∀ a ∈ (widgets "^bad.key$").patterned widgetKeys,
      ¬ Pattern.Uncountable a.key := by
    rw [hpatterned]
    simpa [Pattern.Uncountable] using show ¬ Pattern.parse _ = _ by decide +kernel
  obtain ⟨answer, hanswer⟩ := hexists.mpr ⟨faultsAreOwn_widgets hliterals, hcountable⟩
  obtain ⟨-, -, hcandidates⟩ := hlaw answer hanswer
  refine ⟨answer, hanswer, ?_, ?_⟩
  · refine (hcandidates "size").mpr ⟨by decide +kernel, .inr ?_⟩
    refine ⟨{ key := "size", when := "field_type ==" }, by simp [hliterals], by decide +kernel, ?_⟩
    have hundecided : (Predicate.isVisible (.build widgetKeys.known widgetKeys.supplied)
        { key := "size", when := "field_type ==" } "size").toOption = none := by decide +kernel
    cases hvisible : Predicate.isVisible (.build widgetKeys.known widgetKeys.supplied)
        { key := "size", when := "field_type ==" } "size" with
    | error fault => exact .atFault hvisible
    | ok visible => simp [hvisible, Except.toOption] at hundecided
  · intro hcolour
    have hfree := ((hcandidates "colour").mp hcolour).1
    exact absurd hfree (by decide +kernel)

/-- A pattern that asks for more rounds than can be counted cannot be read either, but there no keys
are offered at all. -/
theorem not_forall_collect_attributeKey :
    ¬ ∀ (ctx : Context) (r : Request), ctx.registry.AllWellKeyed → ctx.skipVisibility r = false →
      ctx.FaultsAreOwn r → ∃ answer,
        (ctx.collect ctx.depth (r.only .attributeKey)).result = .ok answer := by
  intro claim
  have hliterals : (widgets "^[a]{4294967295}$").literals widgetKeys =
      [{ key := "size", when := "field_type ==" }, { key := "colour" }] := by decide +kernel
  have hpatterned : (widgets "^[a]{4294967295}$").patterned widgetKeys =
      [{ key := "^[a]{4294967295}$" }] := by decide +kernel
  obtain ⟨answer, hanswer⟩ := claim (widgets "^[a]{4294967295}$") widgetKeys
    (allWellKeyed_widgets _) (by decide +kernel) (faultsAreOwn_widgets hliterals)
  obtain ⟨keys, hkeys, -⟩ := collect_attributeKey_eq_ok_iff.mp hanswer
  obtain ⟨-, -, hcountable, -⟩ := attributeKeys_eq_ok_iff.mp hkeys
  have huncountable : Pattern.parse "^[a]{4294967295}$".toList = .error .tooManyRounds := by
    decide +kernel
  exact hcountable { key := "^[a]{4294967295}$" } (by simp [hpatterned]) huncountable

end Context
end NextWord
