import NextWord.Proofs.Completion.OfferedKeys
import NextWord.Proofs.Pattern.Merging
import NextWord.Proofs.Resource.Usable

/-!
# The patterns of loaded resources

The keys of loaded attributes that are patterns can be read one by one. They can be read together as
well: a tree grows out of all of them and none is skipped, since the prefixes that its nodes compile
are prefixes of single patterns. So a request about loaded resources is offered keys without a word
about patterns, whatever it asks for.
-/

namespace NextWord

namespace PatternTree

def additions (attributes : List Attribute) : List TreeCall :=
  attributes.map fun a => .add a.key.toList

theorem accepted_additions {attributes : List Attribute}
    (haccepted : ∀ a ∈ attributes, ∃ segments, Pattern.parse a.key.toList = .ok segments) :
    accepted (additions attributes) = attributes.map fun a => a.key.toList := by
  rw [accepted, additions, List.filterMap_map, ← List.filterMap_eq_map]
  refine List.filterMap_congr fun a ha => ?_
  obtain ⟨segments, hparse⟩ := haccepted a ha
  simp [hparse, Except.toOption]

/-- Patterns that can be read one by one are added one after the other, node by node, to whatever
has grown before. -/
theorem register_additions {front : List Attribute} {a : Attribute}
    (haccepted : ∃ segments, Pattern.parse a.key.toList = .ok segments) :
    ((run (additions front)).register a.key.toList).fault = none := by
  obtain ⟨segments, hparse⟩ := haccepted
  obtain ⟨grown, -, hregister, -⟩ :=
    ((holding_run (additions front)).register a.key.toList).1 segments hparse
  rw [hregister]

end PatternTree

namespace Context

open PatternTree (additions)

theorem growTree_eq_pure {resource : String} {attributes : List Attribute} {tree : PatternTree}
    {patterns : List (List Char)} (h : tree.Holding patterns)
    (haccepted : ∀ a ∈ attributes, ∃ segments, Pattern.parse a.key.toList = .ok segments) :
    growTree resource tree attributes =
      Logged.pure ((additions attributes).foldl PatternTree.call tree) := by
  induction attributes generalizing tree patterns with
  | nil => rfl
  | cons a attributes ih =>
    obtain ⟨⟨segments, hparse⟩, hrest⟩ := List.forall_mem_cons.mp haccepted
    obtain ⟨grown, hadd, hregister, hholding⟩ := (h.register a.key.toList).1 segments hparse
    have hcall : tree.call (.add a.key.toList) = grown := by rw [PatternTree.call, hregister]
    rw [growTree_cons, hadd, additions, List.map_cons, List.foldl_cons, hcall]
    exact ih hholding hrest

/-- Keys that patterns offer beside those of the literal attributes, none of the patterns being
skipped. -/
theorem attributeKeys_eq_bind {ctx : Context} {r : Request}
    (haccepted : ∀ a ∈ ctx.patterned r, ∃ segments, Pattern.parse a.key.toList = .ok segments) :
    ctx.attributeKeys r = (ctx.literalPaths r (ctx.literals r)).bind fun literal =>
      .pure (literal ++
        (learnedKeys r (.run (additions (ctx.patterned r)))).flatMap r.freePaths) := by
  obtain ⟨name, hkeys⟩ := exists_attributeKeys_eq_bind ctx r
  rw [hkeys, growTree_eq_pure PatternTree.holding_empty haccepted]
  simp only [Logged.pure_bind]
  rfl

end Context

open Context (growTree learnedKeys)
open PatternTree (additions)

/-- A resource whose patterns grow into one tree: none is skipped, and none fails on the way at a
node of its own, whichever of the others are there before it. -/
structure Resource.GrowsWhole (r : Resource) : Prop where
  grows : growTree r.name .empty r.patternAttributes =
    Logged.pure (.run (additions r.patternAttributes))
  patterns : (PatternTree.run (additions r.patternAttributes)).patterns =
    r.patternAttributes.map fun a => a.key.toList
  made : ∀ front a back, r.patternAttributes = front ++ a :: back →
    ((PatternTree.run (additions front)).register a.key.toList).fault = none

theorem Resource.growsWhole {r : Resource} (haccepted : ∀ a ∈ r.patternAttributes,
    ∃ segments, Pattern.parse a.key.toList = .ok segments) : r.GrowsWhole where
  grows := Context.growTree_eq_pure PatternTree.holding_empty haccepted
  patterns := by
    rw [(PatternTree.holding_run _).kept, PatternTree.accepted_additions haccepted]
  made := by
    intro front a back hparts
    exact PatternTree.register_additions (haccepted a (by simp [hparts]))

/-- Whatever is loaded is usable. Attributes stand under their own keys and have the arguments of
their types and the conditions that were declared, all of them texts; their patterns can be read,
and grow into one tree; so a request is offered all that the patterns complete to, and no word is
said about any of them. -/
theorem Registry.usable_of_load {definitions : Entries} {reading : Reading Registry}
    (h : (load definitions).result = .ok reading) :
    reading.value.AllHold (fun r => r.IsUsable definitions ∧ r.GrowsWhole) ∧
      ∀ (ctx : Context) (r : Request), ctx.registry = reading.value →
        ctx.attributeKeys r = (ctx.literalPaths r (ctx.literals r)).bind fun literal =>
          .pure (literal ++
            (learnedKeys r (.run (additions (ctx.patterned r)))).flatMap r.freePaths) := by
  have husable := allHold_isUsable_of_load h
  refine ⟨husable.imp fun r hr => ⟨hr, Resource.growsWhole fun _ => hr.exists_parse⟩, ?_⟩
  rintro ctx r hregistry
  refine Context.attributeKeys_eq_bind ?_
  rw [Context.patterned, Context.selected, Context.resource?, hregistry]
  split
  · next resource hresource =>
    split at hresource
    · cases hresource
    · exact fun _ => (husable.of_get? hresource).exists_parse
  · simp

/-- Parts with two patterns that share a prefix, a pattern with a bare dot, an enumeration with an
empty value, and a reference with conditions. -/
def Registry.parts : Entries :=
  [("parts", .dict [(.name "attributes", .dict
    [(.name "^sizes\\.([a-z]+)\\.min$", .str "STRING"),
      (.name "^sizes\\.([a-z]+)\\.unit$", .str "ENUM: mm , ,inch"),
      (.name "^sizes.max$", .str "STRING"),
      (.name "maker", .dict [(.name "type", .str "RESOURCE_ID: makers "),
        (.name "conditions", .list [.str "kind == 'bolt'"])])])])]

theorem Registry.usable_of_load_parts :
    ∃ reading, (load parts).result = .ok reading ∧
      (∃ r, reading.value.get? "parts" = some r ∧ r.attributes.keys =
        ["^sizes\\.([a-z]+)\\.min$", "^sizes\\.([a-z]+)\\.unit$", "maker"]) ∧
      reading.value.AllHold (fun r => r.IsUsable parts ∧ r.GrowsWhole) := by
  have hkeys : ((load parts).result.toOption.bind fun reading =>
      (reading.value.get? "parts").map fun r => r.attributes.keys) =
        some ["^sizes\\.([a-z]+)\\.min$", "^sizes\\.([a-z]+)\\.unit$", "maker"] := by
    decide +kernel
  obtain ⟨reading, hreading, hkeys⟩ := Option.bind_eq_some_iff.mp hkeys
  obtain ⟨r, hr, hkeys⟩ := Option.map_eq_some_iff.mp hkeys
  have hresult := eq_ok_of_toOption_eq_some hreading
  exact ⟨reading, hresult, ⟨r, hr, hkeys⟩, (usable_of_load hresult).1⟩

end NextWord
