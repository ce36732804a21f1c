import NextWord.Completion.Attributes
import NextWord.Proofs.Outcome
import NextWord.Proofs.Resource.SingularNames

/-!
# Walking to a resource of any type

A reference to a resource of any type is typed in steps, and the second one offers the payload types
of the registry. The word chosen there is not looked up as a type, though: its text up to the next
slash leads to the resource with that plural name, or with that singular name, and to the first one
of that type only if no resource has the name. All that is offered next is told by the resource so
found. The walk stays on the chosen type where the type is free of slashes and no resource of
another type bears it as a name.

That something is offered at all is not claimed, since a resource may have no alias.
-/

namespace NextWord

namespace AliasBook

variable {book : AliasBook} {alternates : List Value} {name : String}

theorem mem_ofValue_iff {type : Value} {names : List String} (h : book.ofValue type = .ok names) :
    name ∈ names ↔ ∃ text, type = .str text ∧ name ∈ book.of text := by
  cases type with
  | str text =>
    obtain rfl := Except.ok.inj h
    simp
  | list items => cases h
  | dict entries => cases h
  | _ =>
    obtain rfl := Except.ok.inj h
    simp

theorem mem_alternates_iff {others : List (List String)}
    (h : alternates.mapM book.ofValue = .ok others) :
    name ∈ others.flatten ↔ ∃ text, .str text ∈ alternates ∧ name ∈ book.of text := by
  induction alternates generalizing others with
  | nil =>
    obtain rfl := Except.ok.inj h
    simp
  | cons type alternates ih =>
    rw [List.mapM_cons] at h
    obtain ⟨names, hnames, h⟩ := exists_of_except_bind h
    obtain ⟨more, hmore, h⟩ := exists_of_except_bind h
    obtain rfl := Except.ok.inj h
    rw [List.flatten_cons, List.mem_append, mem_ofValue_iff hnames, ih hmore]
    constructor
    · rintro (⟨text, rfl, htext⟩ | ⟨text, hmem, htext⟩)
      · exact ⟨text, List.mem_cons_self, htext⟩
      · exact ⟨text, List.mem_cons_of_mem type hmem, htext⟩
    · rintro ⟨text, hmem, htext⟩
      rcases List.mem_cons.mp hmem with hown | hother
      · exact .inl ⟨text, hown.symm, htext⟩
      · exact .inr ⟨text, hother, htext⟩

/-- The names found for a type and its alternates are those kept for one of them. -/
theorem mem_lookup_iff {type : Option String} {names : List String}
    (h : book.lookup type alternates = .ok names) :
    name ∈ names ↔ ∃ text, (type = some text ∨ .str text ∈ alternates) ∧ name ∈ book.of text := by
  obtain ⟨others, hothers, h⟩ := exists_of_except_bind h
  obtain rfl := Except.ok.inj h
  rw [Text.sorted, List.mem_mergeSort, List.mem_eraseDups, List.mem_append,
    mem_alternates_iff hothers]
  cases type with
  | none => simp
  | some own => simp [or_and_right, exists_or]

end AliasBook

namespace Context

variable {ctx : Context} {r : Request} {type : String} {found : Resource}

/-- Whether an alias is kept for the payload type of a resource or for an alternate one. -/
def HasAlias (ctx : Context) (resource : Resource) (name : String) : Prop :=
  ∃ book text, ctx.aliases = some book ∧
    (resource.jsonApiType = some text ∨ .str text ∈ resource.alternateTypes) ∧ name ∈ book.of text

/-- What of a resource can be referred to: itself, and attributes of it that tell it apart. -/
def HasPart (resource : Resource) (part : String) : Prop :=
  part = "id" ∨ part ∈ Vocabulary.aliasSuffixes ∧ resource.attributes.has part = true

def typeWord (type : String) : String :=
  "alias/" ++ type ++ "/"

def partWord (type name part : String) : String :=
  typeWord type ++ name ++ "/" ++ part

/-- Whether a word refers to a part of a registered resource of a type, by an alias kept for it. -/
def StaysOn (ctx : Context) (type word : String) : Prop :=
  ∃ resource ∈ ctx.registry.plural, resource.jsonApiType = some type ∧
    ∃ name part, ctx.HasAlias resource name ∧ HasPart resource part ∧
      word = partWord type name part

theorem mem_aliasesOf_iff {names : List String} (h : ctx.aliasesOf r found = .ok names)
    {name : String} : name ∈ names ↔ ctx.noAliases r = false ∧ ctx.HasAlias found name := by
  rw [aliasesOf] at h
  split at h
  · next hwithheld =>
    obtain rfl := Except.ok.inj h
    simp [hwithheld]
  · next hwithheld =>
    have hnames : name ∈ names ↔ ctx.HasAlias found name := by
      split at h
      · next book hbook => simp [AliasBook.mem_lookup_iff h, HasAlias, hbook]
      · next hbook =>
        obtain rfl := Except.ok.inj h
        simp [HasAlias, hbook]
    simp [hnames, hwithheld]

theorem mem_aliasWords_iff {name word : String} : word ∈ aliasWords found name ↔
    ∃ part, HasPart found part ∧ word = partWord (found.jsonApiType.getD "None") name part := by
  rw [aliasWords, List.mem_cons, List.mem_map]
  constructor
  · rintro (rfl | ⟨part, hpart, rfl⟩)
    · exact ⟨"id", .inl rfl, rfl⟩
    · exact ⟨part, .inr (List.mem_filter.mp hpart), rfl⟩
  · rintro ⟨part, rfl | hpart, rfl⟩
    · exact .inl rfl
    · exact .inr ⟨part, List.mem_filter.mpr hpart, rfl⟩

/-- The words behind the first slash are told by the resource that the text there leads to. -/
theorem mem_wordsOfType_iff {words : List String} (h : ctx.wordsOfType r type = .ok words)
    {word : String} : word ∈ words ↔ ctx.noAliases r = false ∧
      ∃ found name part, ctx.resourceOfType? type = some found ∧ ctx.HasAlias found name ∧
        HasPart found part ∧ word = partWord (found.jsonApiType.getD "None") name part := by
  rw [wordsOfType] at h
  cases hled : ctx.resourceOfType? type with
  | none =>
    rw [hled] at h
    obtain rfl := Except.ok.inj h
    simp
  | some found =>
    rw [hled] at h
    obtain ⟨names, hnames, h⟩ := exists_of_except_bind h
    obtain rfl := Except.ok.inj h
    simp only [List.mem_flatMap, mem_aliasesOf_iff hnames, mem_aliasWords_iff, Option.some.injEq]
    constructor
    · rintro ⟨name, ⟨hoffered, halias⟩, part, hpart, rfl⟩
      exact ⟨hoffered, found, name, part, rfl, halias, hpart, rfl⟩
    · rintro ⟨hoffered, found, name, part, rfl, halias, hpart, rfl⟩
      exact ⟨name, ⟨hoffered, halias⟩, part, hpart, rfl⟩

/-- A text that no resource of another type bears as a name leads to a resource of that type. -/
theorem resourceOfType?_of_named
    (named : ∀ bearer, ctx.registry.get? type = some bearer →
      bearer ∈ ctx.registry.plural ∧ bearer.jsonApiType = some type)
    (h : ctx.resourceOfType? type = some found) :
    found ∈ ctx.registry.plural ∧ found.jsonApiType = some type := by
  rw [resourceOfType?] at h
  cases hget : ctx.registry.get? type with
  | some bearer =>
    rw [hget] at h
    obtain rfl := Option.some.inj h
    exact named _ hget
  | none =>
    rw [hget, Option.orElse_none] at h
    exact ⟨List.mem_of_find?_eq_some h, by simpa using List.find?_some h⟩

theorem typeWord_inj {other : String} : typeWord other = typeWord type ↔ other = type := by
  simp [typeWord, ← String.toList_inj]

theorem splitOn_typeWord (type : String) :
    (typeWord type).toList.splitOn '/' =
      "alias".toList :: (type.toList.splitOn '/' ++ [[]]) := by
  have hword : (typeWord type).toList = "alias".toList ++ '/' :: (type.toList ++ '/' :: []) := by
    simp [typeWord]
  rw [hword, List.splitOn_append_cons_self, List.splitOn_append_cons_self]
  rfl

theorem valuesOf_eq_referenceSteps {type : AttributeType} (hreference : type.kind = .resourceRef)
    (hany : type.target = "*") : ctx.valuesOf r type = ctx.referenceSteps r := by
  rw [valuesOf, hreference]
  dsimp only
  rw [references, if_pos hany]

/-- What is offered at the step of the types. -/
theorem candidates_of_typeStep {offer : Offer}
    (hstep : (r.toComplete.toList.splitOn '/').length = 2)
    (h : ctx.referenceSteps r = .ok offer) :
    offer.candidates = ctx.payloadTypes.map fun type => .str (typeWord type) := by
  obtain ⟨first, second, hpieces⟩ := List.length_eq_two.mp hstep
  rw [referenceSteps, hpieces] at h
  obtain rfl := Except.ok.inj h
  rw [Offer.hinting, Offer.ofTexts, List.map_map]
  rfl

/-- The text of a type up to its first slash, which is what the step behind it looks up. -/
def lookedUp (type : String) : String :=
  String.ofList (type.toList.takeWhile (· != '/'))

/-- Behind the word for a type that has one slash at most, the words for the text up to it are
offered, and behind any other nothing is. -/
theorem mem_referenceSteps_iff {offer : Offer} (hword : r.toComplete = typeWord type)
    (h : ctx.referenceSteps r = .ok offer) {v : Value} : v ∈ offer.candidates ↔
      type.toList.count '/' ≤ 1 ∧ ctx.noAliases r = false ∧
        ∃ found name part, ctx.resourceOfType? (lookedUp type) = some found ∧
          ctx.HasAlias found name ∧ HasPart found part ∧
          v = .str (partWord (found.jsonApiType.getD "None") name part) := by
  have hcount := Text.length_splitOn '/' type.toList
  obtain ⟨pieces, hpieces⟩ := Text.exists_splitOn_eq_cons '/' type.toList
  rw [hpieces, List.length_cons, Nat.add_right_cancel_iff] at hcount
  rw [referenceSteps, hword, splitOn_typeWord, hpieces] at h
  by_cases hfew : pieces.length ≤ 1
  · have hwords : (do pure (Offer.ofTexts (← ctx.wordsOfType r (lookedUp type)))) =
        Except.ok offer := by
      rcases pieces with _ | ⟨second, _ | ⟨third, pieces⟩⟩
      · exact h
      · exact h
      · simp at hfew
    obtain ⟨words, hread, hoffer⟩ := exists_of_except_bind hwords
    obtain rfl := Except.ok.inj hoffer
    rw [Offer.ofTexts, List.mem_map]
    simp only [mem_wordsOfType_iff hread, ← hcount, hfew, true_and]
    constructor
    · rintro ⟨word, ⟨hoffered, found, name, part, hled, halias, hpart, rfl⟩, rfl⟩
      exact ⟨hoffered, found, name, part, hled, halias, hpart, rfl⟩
    · rintro ⟨hoffered, found, name, part, hled, halias, hpart, rfl⟩
      exact ⟨_, ⟨hoffered, found, name, part, hled, halias, hpart, rfl⟩, rfl⟩
  · -- With two slashes in the type there are more steps than a reference has.
    have hnone : Offer.none = offer := by
      rcases pieces with _ | ⟨second, _ | ⟨third, pieces⟩⟩
      · simp at hfew
      · simp at hfew
      · cases pieces <;> exact Except.ok.inj h
    subst hnone
    have hmany : ¬ type.toList.count '/' ≤ 1 := hcount ▸ hfew
    simp [Offer.none, hmany]

/-- Up to its first slash a type without slashes is whole. -/
theorem lookedUp_eq_self (htype : '/' ∉ type.toList) : lookedUp type = type := by
  obtain ⟨pieces, hpieces⟩ := Text.exists_splitOn_eq_cons '/' type.toList
  rw [List.splitOn_eq_singleton htype] at hpieces
  rw [lookedUp, ← (List.cons.inj hpieces).1, String.ofList_toList]

/-- No word under a type without slashes goes on from the word for another such type. -/
theorem eq_of_partWord_continues {other name part : String} (htype : '/' ∉ type.toList)
    (hother : '/' ∉ other.toList)
    (h : (typeWord type).toList <+: (partWord other name part).toList) : other = type := by
  obtain ⟨rest, hrest⟩ := h
  have hwords : "alias/".toList ++ (type.toList ++ '/' :: rest) =
      "alias/".toList ++ (other.toList ++ '/' :: (name.toList ++ '/' :: part.toList)) := by
    simpa [partWord, typeWord] using hrest
  have hpieces := congrArg (List.splitOn '/') (List.append_cancel_left hwords)
  rw [List.splitOn_append_cons_self, List.splitOn_append_cons_self,
    List.splitOn_eq_singleton htype, List.splitOn_eq_singleton hother] at hpieces
  exact String.toList_inj.mp (List.cons.inj hpieces).1.symm

/-- What follows the choice of a type in a reference to a resource of any type. The words offered
are those of the resource that the type, up to its first slash, leads to by name or by type, under
the type which that resource has. They stay on the chosen type if it has no slash and is no name of
a resource that is unregistered or of another type; where it is the name of a resource of another
type, not one of them goes on from the word that was chosen. -/
theorem references_of_typeStep (ctx : Context) {a : Attribute}
    (hreference : a.type.kind = .resourceRef) (hany : a.type.target = "*") {start r : Request}
    (hstep : (start.toComplete.toList.splitOn '/').length = 2) {types offer : Offer}
    (htypes : ctx.valuesOf start a.type = .ok types) (hchosen : .str r.toComplete ∈ types.candidates)
    (hoffer : ctx.valuesOf r a.type = .ok offer) :
    ∃ type ∈ ctx.payloadTypes, r.toComplete = typeWord type ∧
      (∀ v, v ∈ offer.candidates ↔ type.toList.count '/' ≤ 1 ∧ ctx.noAliases r = false ∧
        ∃ found name part, ctx.resourceOfType? (lookedUp type) = some found ∧
          ctx.HasAlias found name ∧ HasPart found part ∧
          v = .str (partWord (found.jsonApiType.getD "None") name part)) ∧
      ('/' ∉ type.toList →
        (∀ bearer, ctx.registry.get? type = some bearer →
          bearer ∈ ctx.registry.plural ∧ bearer.jsonApiType = some type) →
        ∀ v ∈ offer.candidates, ∃ word, v = .str word ∧ ctx.StaysOn type word) ∧
      ('/' ∉ type.toList →
        ∀ bearer other, ctx.registry.get? type = some bearer → bearer.jsonApiType = some other →
          other ≠ type → '/' ∉ other.toList →
          ∀ v ∈ offer.candidates, ∃ word, v = .str word ∧
            ¬ r.toComplete.toList <+: word.toList) := by
  rw [valuesOf_eq_referenceSteps hreference hany] at htypes hoffer
  rw [candidates_of_typeStep hstep htypes] at hchosen
  obtain ⟨type, htype, hword⟩ := List.mem_map.mp hchosen
  have hword : r.toComplete = typeWord type := (Value.str.inj hword).symm
  have hmem := fun v => mem_referenceSteps_iff hword hoffer (v := v)
  refine ⟨type, htype, hword, hmem, ?_, ?_⟩
  · intro hslash named v hv
    obtain ⟨-, -, found, name, part, hled, halias, hpart, rfl⟩ := (hmem v).mp hv
    rw [lookedUp_eq_self hslash] at hled
    obtain ⟨hregistered, hpayload⟩ := resourceOfType?_of_named named hled
    refine ⟨_, rfl, found, hregistered, hpayload, name, part, halias, hpart, ?_⟩
    rw [hpayload, Option.getD_some]
  · intro hslash bearer other hbearer hpayload hne hother v hv
    obtain ⟨-, -, found, name, part, hled, -, -, rfl⟩ := (hmem v).mp hv
    rw [lookedUp_eq_self hslash, resourceOfType?, hbearer] at hled
    obtain rfl : bearer = found := Option.some.inj hled
    refine ⟨_, rfl, fun hprefix => hne ?_⟩
    rw [hword, hpayload, Option.getD_some] at hprefix
    exact eq_of_partWord_continues hslash hother hprefix

def anyReference : Attribute :=
  { key := "target_id", type := { kind := .resourceRef, target := "*" } }

/-- Products, which are also known by the name of their type. -/
def products : Resource :=
  { name := "pcm-products", singularName := some "product", jsonApiType := some "product",
    alternateTypes := [.str "pcm-product", .int 7] }

/-- Products with an alias for each of their types, and another resource. -/
def petStore : Context where
  registry := .ofAdditions [products, { name := "entries", jsonApiType := some "entry" }]
  aliases := some ((AliasBook.empty.add "product" "dogbed").add "pcm-product" "catbed")

def typeStep : Request := { toComplete := "alias/", noAliases := some false }

def productStep : Request := { toComplete := "alias/product/", noAliases := some false }

theorem length_typeStep : (typeStep.toComplete.toList.splitOn '/').length = 2 := by
  decide +kernel

theorem productStep_toComplete : productStep.toComplete = typeWord "product" := by
  decide +kernel

theorem references_of_typeStep_petStore : ∃ types offer,
    anyReference.type.kind = .resourceRef ∧ anyReference.type.target = "*" ∧
      (typeStep.toComplete.toList.splitOn '/').length = 2 ∧
      petStore.valuesOf typeStep anyReference.type = .ok types ∧
      .str productStep.toComplete ∈ types.candidates ∧
      petStore.valuesOf productStep anyReference.type = .ok offer ∧
      .str (partWord "product" "catbed" "id") ∈ offer.candidates ∧
      ∀ v ∈ offer.candidates, ∃ word, v = .str word ∧ petStore.StaysOn "product" word := by
  obtain ⟨types, htypes⟩ := exists_eq_ok_of_isSome_toOption
    (e := petStore.valuesOf typeStep anyReference.type) (by decide +kernel)
  obtain ⟨offer, hoffer⟩ := exists_eq_ok_of_isSome_toOption
    (e := petStore.valuesOf productStep anyReference.type) (by decide +kernel)
  have hchosen : .str productStep.toComplete ∈ types.candidates := by
    rw [candidates_of_typeStep length_typeStep htypes, productStep_toComplete]
    exact List.mem_map_of_mem (by decide +kernel)
  have hproducts : petStore.registry.get? "product" = some products := by
    rw [petStore, Registry.get?, Registry.find?_resources, Registry.find?_singular]
    rfl
  obtain ⟨type, -, hword, hmem, hstays, -⟩ :=
    references_of_typeStep petStore rfl rfl length_typeStep htypes hchosen hoffer
  obtain rfl := typeWord_inj.mp (productStep_toComplete.symm.trans hword)
  refine ⟨types, offer, rfl, rfl, length_typeStep, htypes, hchosen, hoffer, ?_, hstays (by decide) ?_⟩
  · refine (hmem _).mpr ⟨by decide, rfl, products, "catbed", "id", ?_, ?_, .inl rfl, rfl⟩
    · rw [lookedUp_eq_self (by decide), resourceOfType?, hproducts]
      rfl
    · exact ⟨_, "pcm-product", rfl, .inr List.mem_cons_self, by decide +kernel⟩
  · intro bearer hbearer
    obtain rfl : products = bearer := Option.some.inj (hproducts.symm.trans hbearer)
    exact ⟨List.mem_cons_self, rfl⟩

/-- A resource named after the type of another one. -/
def misnamed : Resource := { name := "product", jsonApiType := some "widget" }

/-- It stands beside what is of that type. -/
def crossedStore : Context where
  registry := .ofAdditions [misnamed, { name := "items", jsonApiType := some "product" }]
  aliases := some ((AliasBook.empty.add "widget" "wheel").add "product" "dogbed")

/-- A type that is the name of a resource of another type leads the walk to that resource. -/
theorem not_forall_staysOn :
    ¬ ∀ (ctx : Context) (a : Attribute) (start r : Request) (types offer : Offer),
      a.type.kind = .resourceRef → a.type.target = "*" →
      (start.toComplete.toList.splitOn '/').length = 2 →
      ctx.valuesOf start a.type = .ok types → .str r.toComplete ∈ types.candidates →
      ctx.valuesOf r a.type = .ok offer →
      ∀ v ∈ offer.candidates, ∃ type word, r.toComplete = typeWord type ∧ v = .str word ∧
        ctx.StaysOn type word := by
  intro claim
  obtain ⟨types, htypes⟩ := exists_eq_ok_of_isSome_toOption
    (e := crossedStore.valuesOf typeStep anyReference.type) (by decide +kernel)
  obtain ⟨offer, hoffer⟩ := exists_eq_ok_of_isSome_toOption
    (e := crossedStore.valuesOf productStep anyReference.type) (by decide +kernel)
  have hchosen : .str productStep.toComplete ∈ types.candidates := by
    rw [candidates_of_typeStep length_typeStep htypes, productStep_toComplete]
    exact List.mem_map_of_mem (by decide +kernel)
  have hmisnamed : crossedStore.registry.get? "product" = some misnamed := by
    rw [crossedStore, Registry.get?, Registry.find?_resources]
    rfl
  have hwheel : .str (partWord "widget" "wheel" "id") ∈ offer.candidates := by
    refine (mem_referenceSteps_iff productStep_toComplete hoffer).mpr
      ⟨by decide, rfl, misnamed, "wheel", "id", ?_, ?_, .inl rfl, rfl⟩
    · rw [lookedUp_eq_self (by decide), resourceOfType?, hmisnamed]
      rfl
    · exact ⟨_, "widget", rfl, .inl rfl, by decide +kernel⟩
  obtain ⟨type, word, hword, hv, resource, -, -, name, part, -, -, rfl⟩ :=
    claim crossedStore anyReference typeStep productStep types offer rfl rfl length_typeStep htypes
      hchosen hoffer _ hwheel
  obtain rfl := typeWord_inj.mp (productStep_toComplete.symm.trans hword)
  have hprefix : (typeWord "product").toList <+: (partWord "widget" "wheel" "id").toList := by
    rw [Value.str.inj hv]
    exact ⟨name.toList ++ '/' :: part.toList, by simp [partWord]⟩
  exact absurd (eq_of_partWord_continues (by decide) (by decide) hprefix) (by decide)

end Context
end NextWord
