import NextWord.Proofs.Completion.Escaping
import NextWord.Proofs.Completion.LoadedKeys
import NextWord.Proofs.Path.NextIndices
import NextWord.Proofs.Pattern.EmptyCompletions

/-!
# Empty attribute keys

The empty text is a path like any other to those who offer it, and is offered until it is supplied.
No literal attribute comes to it unless that is its key. A pattern comes to it where nothing is
known of the path from its start on.
-/

namespace NextWord

open NextWord.Path (resolveHoles)

namespace Path

/-- Only the empty template resolves to the empty path. -/
theorem empty_mem_resolveHoles_iff {template : String} {supplied : List String} :
    "" ∈ resolveHoles template supplied ↔ template = "" := by
  constructor
  · intro h
    obtain ⟨path, hpath, hempty⟩ := List.mem_map.mp h
    obtain rfl : path = [] := by simpa using congrArg String.toList hempty
    have hhead : template.toList.head? = none := by
      rw [← head?_fold, ← fold_of_mem_resolve hpath]
      rfl
    exact String.toList_eq_nil_iff.mp (List.head?_eq_none_iff.mp hhead)
  · rintro rfl
    simp [resolveHoles, Template.ofText, Template.resolve, Template.holeCount]

end Path

namespace PatternTree

theorem withPattern_eq_of_add {tree grown : PatternTree} {a : Attribute}
    (h : tree.add a.key.toList = .ok grown) : tree.withPattern a = grown := by
  rw [withPattern, h]
  rfl

/-- Attributes whose patterns can be read grow into a tree that holds these. -/
theorem holds_ofPatterns {attributes : List Attribute}
    (accepted : ∀ a ∈ attributes, ∃ segments, Pattern.parse a.key.toList = .ok segments) :
    (ofPatterns attributes).Holds (attributes.map fun a => a.key.toList) := by
  have hgrown (tree : PatternTree) (known : List (List Char)) (hknown : tree.Holds known) :
      (attributes.foldl withPattern tree).Holds
        (known ++ attributes.map fun a => a.key.toList) := by
    induction attributes generalizing tree known with
    | nil => simpa using hknown
    | cons a attributes ih =>
      obtain ⟨⟨segments, hparse⟩, hrest⟩ := List.forall_mem_cons.mp accepted
      obtain ⟨next, hadd, hnext⟩ := hknown.add hparse
      have hall := ih hrest next _ hnext
      rw [List.append_assoc] at hall
      rwa [List.foldl_cons, withPattern_eq_of_add hadd]
  exact hgrown empty [] holds_empty

end PatternTree

namespace Answer

theorem areTexts_distinct (texts : List String) : AreTexts (distinct (texts.map Value.str)) :=
  fun v hv => areTexts_map_str texts v (mem_of_mem_distinct hv)

/-- Only the empty text is escaped to the empty text. -/
theorem empty_mem_escaped_iff {vs escaped : List Value} (htexts : AreTexts vs)
    (h : vs.mapM escape = .ok escaped) : .str "" ∈ escaped ↔ .str "" ∈ vs := by
  obtain ⟨texts, rfl⟩ := htexts.exists_eq_map
  obtain rfl := Except.ok.inj ((mapM_escape texts).symm.trans h)
  have hempty : escapedText "" = "" := rfl
  have hstr {texts : List String} : .str "" ∈ texts.map Value.str ↔ "" ∈ texts := by simp
  rw [hstr, hstr]
  nth_rewrite 1 [← hempty]
  exact List.mem_map_of_injective escapedText_injective

end Answer

namespace Context

variable {ctx : Context} {r : Request}

theorem empty_not_mem_literalPaths {attributes : List Attribute}
    (named : ∀ a ∈ attributes, a.key ≠ "") {paths : List String}
    (h : (ctx.literalPaths r attributes).result = .ok paths) : "" ∉ paths := by
  intro hmem
  obtain ⟨a, hasked⟩ := Judge.exists_asked_of_mem h "" hmem
  obtain ⟨ha, hfree⟩ := mem_askedAbout.mp hasked
  exact named a ha (Path.empty_mem_resolveHoles_iff.mp (List.mem_filter.mp hfree).1)

theorem learnedKeys_eq (r : Request) (tree : PatternTree) :
    learnedKeys r tree =
      (tree.observeAll (r.supplied.keys.map String.toList)).completions.map String.ofList := by
  rw [learnedKeys, PatternTree.observeAll, List.foldl_map]

/-- The empty path is among the keys if it is free and a pattern offers the empty text. -/
theorem empty_mem_attributeKeys_iff
    (named : ∀ a ∈ ctx.literals r, a.key ≠ "")
    (accepted : ∀ a ∈ ctx.patterned r, ∃ segments, Pattern.parse a.key.toList = .ok segments)
    {keys : List String} (h : (ctx.attributeKeys r).result = .ok keys) :
    "" ∈ keys ↔ r.supplied.has "" = false ∧ ∃ a ∈ ctx.patterned r,
      Pattern.OpensUnknown (r.supplied.keys.map String.toList) a.key.toList := by
  obtain ⟨literal, hliteral, -, rfl⟩ := attributeKeys_eq_ok_iff.mp h
  rw [List.mem_append, or_iff_right (empty_not_mem_literalPaths named hliteral),
    mem_flatMap_freePaths]
  refine and_congr_right fun _ => ?_
  have htree := PatternTree.holds_ofPatterns accepted
  have hempty : ("" ∈ learnedKeys r (.ofPatterns (ctx.patterned r))) ↔
      [] ∈ ((PatternTree.ofPatterns (ctx.patterned r)).observeAll
        (r.supplied.keys.map String.toList)).completions := by
    rw [learnedKeys_eq]
    simp
  simp only [List.mem_flatMap, Path.empty_mem_resolveHoles_iff, exists_eq_right, hempty,
    htree.nil_mem_completions, List.mem_map, exists_exists_and_eq_and]

/-- Whether candidates are escaped or not, the empty text is one of them if it was found. -/
theorem empty_mem_complete_iff {answer : Answer}
    (h : (ctx.complete (r.only .attributeKey)).result = .ok answer) :
    ∃ keys, (ctx.attributeKeys r).result = .ok keys ∧
      (.str "" ∈ answer.candidates ↔ "" ∈ keys) := by
  obtain ⟨plain, hplain, h⟩ := Logged.exists_of_bind h
  obtain ⟨keys, hkeys, rfl⟩ := collect_attributeKey_eq_ok_iff.mp hplain
  refine ⟨keys, hkeys, ?_⟩
  rw [← Answer.mem_distinct_texts]
  split at h
  · obtain ⟨escaped, hescaped, h⟩ := Logged.exists_of_bind h
    obtain rfl := Except.ok.inj h
    exact Answer.empty_mem_escaped_iff (Answer.areTexts_distinct keys)
      (Logged.result_of_ofExcept hescaped)
  · obtain rfl := Except.ok.inj h
    rfl

end Context

/-- Among the attribute keys that are offered for a loaded resource without an empty key, the empty
text is one exactly if it was not supplied and a pattern of the resource has its end behind the
caret, or a class or a group of which no supplied path shows a text. -/
theorem Registry.empty_mem_complete_iff_of_load {definitions : Entries} {reading : Reading Registry}
    (h : (load definitions).result = .ok reading)
    (named : reading.value.AllHold fun resource => "" ∉ resource.attributes.keys)
    (ctx : Context) (hregistry : ctx.registry = reading.value) (r : Request) {answer : Answer}
    (hanswer : (ctx.complete (r.only .attributeKey)).result = .ok answer) :
    .str "" ∈ answer.candidates ↔ r.supplied.has "" = false ∧ ∃ a ∈ ctx.patterned r,
      Pattern.OpensUnknown (r.supplied.keys.map String.toList) a.key.toList := by
  obtain ⟨keys, hkeys, hempty⟩ := Context.empty_mem_complete_iff hanswer
  rw [hempty]
  have husable := allHold_isUsable_of_load h
  have hkeyed := allWellKeyed_of_load h
  rw [← hregistry] at named husable hkeyed
  refine Context.empty_mem_attributeKeys_iff ?_ ?_ hkeys
  · intro a ha hkey
    obtain ⟨resource, hresource, ha⟩ := Context.exists_resource_of_mem_selected ha
    obtain ⟨entry, hentry, rfl⟩ := List.mem_map.mp (List.mem_filter.mp ha).1
    have hown := (hkeyed.of_get? hresource).own entry hentry
    exact named.of_get? hresource (List.mem_map.mpr ⟨entry, hentry, hown.symm.trans hkey⟩)
  · intro a ha
    obtain ⟨resource, hresource, ha⟩ := Context.exists_resource_of_mem_selected ha
    exact (husable.of_get? hresource).exists_parse ha

/-- Shops of which any may have a name. -/
def shops : Entries :=
  [("shops", .dict [(.name "attributes", .dict
    [(.name "^([a-z]+)\\.name$", .dict [(.name "type", .str "STRING")])])])]

def shopKeys (registry : Registry) : Logged Answer :=
  ({ registry } : Context).complete (({ resource := "shops" } : Request).only .attributeKey)

theorem exists_shopKeys : ∃ reading answer, (Registry.load shops).result = .ok reading ∧
    (reading.value.AllHold fun resource => "" ∉ resource.attributes.keys) ∧
    (shopKeys reading.value).result = .ok answer ∧ .str "" ∈ answer.candidates := by
  have hkeys : ((Registry.load shops).result.toOption.bind fun reading =>
      (shopKeys reading.value).result.toOption.map fun answer =>
        (reading.value.resources.all (fun entry => !entry.2.attributes.keys.contains "") &&
          reading.value.singular.all fun entry => !entry.2.attributes.keys.contains "") &&
        answer.candidates.any fun v => v.same (.str "")) = some true := by
    decide +kernel
  obtain ⟨reading, hreading, hkeys⟩ := Option.bind_eq_some_iff.mp hkeys
  obtain ⟨answer, hanswer, hkeys⟩ := Option.map_eq_some_iff.mp hkeys
  simp only [Bool.and_eq_true, List.all_eq_true, List.any_eq_true, Bool.not_eq_true',
    List.contains_eq_mem, decide_eq_false_iff_not] at hkeys
  obtain ⟨named, v, hv, hempty⟩ := hkeys
  refine ⟨reading, answer, eq_ok_of_toOption_eq_some hreading, named,
    eq_ok_of_toOption_eq_some hanswer, ?_⟩
  cases v with
  | str text =>
    obtain rfl : text = "" := by simpa [Value.same, Value.sameScalar] using hempty
    exact hv
  | _ => simp [Value.same, Value.sameScalar, Value.toNumber?] at hempty

theorem Registry.empty_mem_complete_iff_of_load_shops :
    ∃ reading answer, (load shops).result = .ok reading ∧
      (shopKeys reading.value).result = .ok answer ∧ .str "" ∈ answer.candidates ∧
      ∃ a ∈ ({ registry := reading.value } : Context).patterned { resource := "shops" },
        Pattern.OpensUnknown [] a.key.toList := by
  obtain ⟨reading, answer, hreading, named, hanswer, hempty⟩ := exists_shopKeys
  refine ⟨reading, answer, hreading, hanswer, hempty, ?_⟩
  exact ((empty_mem_complete_iff_of_load hreading named { registry := reading.value } rfl
    { resource := "shops" } hanswer).mp hempty).2

/-- A pattern that opens with a group offers the empty text as long as nothing is supplied. -/
theorem Registry.not_forall_nonempty_keys :
    ¬ ∀ (definitions : Entries) (reading : Reading Registry),
      (load definitions).result = .ok reading →
      (reading.value.AllHold fun resource => "" ∉ resource.attributes.keys) →
      ∀ (ctx : Context), ctx.registry = reading.value → ∀ (r : Request) (answer : Answer),
        (ctx.complete (r.only .attributeKey)).result = .ok answer →
          .str "" ∉ answer.candidates := by
  intro claim
  obtain ⟨reading, answer, hreading, named, hanswer, hempty⟩ := exists_shopKeys
  exact claim shops reading hreading named { registry := reading.value } rfl
    { resource := "shops" } answer hanswer hempty

end NextWord
