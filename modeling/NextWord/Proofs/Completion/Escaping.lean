import Mathlib.Data.List.Nodup
import NextWord.Proofs.Completion.NestedHeaders
import NextWord.Proofs.Outcome

/-!
# Escaped candidates

An answer holds every candidate once, with and without escaping, and taking the backslashes away
again gives the answer without escaping. For this the setting must not matter anywhere else: two
contexts that differ in it alone collect the same candidates, at every depth of headers inside one
another. Candidates are texts wherever the query parameters of the resources have texts for names,
and escaping is injective on texts, those with backslashes of their own included.
-/

namespace NextWord

def escapeSetting : String := "escape_spaces"

/-- Whether two contexts differ in the setting for escaping at most. -/
structure Context.SameButEscaping (ctx ctx' : Context) : Prop where
  registry : ctx.registry = ctx'.registry
  aliases : ctx.aliases = ctx'.aliases
  headers : ctx.headers = ctx'.headers
  variableNames : ctx.variableNames = ctx'.variableNames
  settings : ∀ name, name ≠ escapeSetting → ctx.settings.get? name = ctx'.settings.get? name

namespace Context.SameButEscaping

variable {ctx ctx' : Context} (same : ctx.SameButEscaping ctx') (r : Request)

section Settings

include same

theorem get_eq {name : String} (hname : name ≠ escapeSetting) (fallback : Value) :
    ctx.settings.get name fallback = ctx'.settings.get name fallback := by
  rw [Configuration.get, Configuration.get, same.settings name hname]

theorem flag_eq (own : Option Bool) {name : String} (hname : name ≠ escapeSetting) :
    ctx.flag own name = ctx'.flag own name := by
  simp only [flag, Configuration.bool, Configuration.bool?, same.get_eq hname]

theorem list_eq {name : String} (hname : name ≠ escapeSetting) :
    ctx.settings.list name = ctx'.settings.list name := by
  simp only [Configuration.list, Configuration.list?, same.get_eq hname]

end Settings

section Offers

include same

theorem resource?_eq : ctx.resource? r = ctx'.resource? r := by
  rw [resource?, resource?, same.registry]

theorem payloadTypes_eq : ctx.payloadTypes = ctx'.payloadTypes := by
  rw [payloadTypes, payloadTypes, same.registry]

theorem aliasesOf_eq (resource : Resource) :
    ctx.aliasesOf r resource = ctx'.aliasesOf r resource := by
  have hnone : ctx.noAliases r = ctx'.noAliases r := same.flag_eq _ (by decide)
  rw [aliasesOf, aliasesOf, hnone, same.aliases]

theorem wordsOfType_eq (type : String) : ctx.wordsOfType r type = ctx'.wordsOfType r type := by
  have hfound : ctx.resourceOfType? type = ctx'.resourceOfType? type := by
    rw [resourceOfType?, resourceOfType?, same.registry]
  rw [wordsOfType, wordsOfType, hfound]
  simp only [same.aliasesOf_eq r]

theorem references_eq (target : String) : ctx.references r target = ctx'.references r target := by
  have hsteps : ctx.referenceSteps r = ctx'.referenceSteps r := by
    rw [referenceSteps, referenceSteps]
    simp only [same.payloadTypes_eq, same.wordsOfType_eq r]
  rw [references, references, hsteps, same.registry]
  simp only [same.aliasesOf_eq r]

theorem valuesOf_eq (type : AttributeType) : ctx.valuesOf r type = ctx'.valuesOf r type := by
  have hfiles : ctx.settings.list "file_extensions" = ctx'.settings.list "file_extensions" :=
    same.list_eq (by decide)
  rw [valuesOf, valuesOf]
  simp only [same.references_eq r, same.payloadTypes_eq, same.registry, hfiles]

theorem attributeValues_eq : ctx.attributeValues r = ctx'.attributeValues r := by
  have hattribute : ctx.attribute? r = ctx'.attribute? r := by
    rw [attribute?, attribute?, same.resource?_eq r]
  have hsnippets : ctx.allowTemplates r = ctx'.allowTemplates r := same.flag_eq _ (by decide)
  rw [attributeValues, attributeValues, hattribute, hsnippets, same.variableNames]
  simp only [same.valuesOf_eq r]

theorem attributeKeys_eq : ctx.attributeKeys r = ctx'.attributeKeys r := by
  have hskip : ctx.skipVisibility r = ctx'.skipVisibility r := same.flag_eq _ (by decide)
  rw [attributeKeys, attributeKeys, same.resource?_eq r]
  simp only [literalPaths, hskip]

theorem offer_eq (inner : Request → Logged Answer) (intent : Intent) :
    ctx.offer inner r intent = ctx'.offer inner r intent := by
  cases intent with
  | pluralResource => simp only [offer, pluralNames, same.registry]
  | singularResource => simp only [offer, singularNames, same.registry]
  | attributeKey => simp only [offer, same.attributeKeys_eq r]
  | attributeValue => simp only [offer, same.attributeValues_eq r]
  | queryParamKey => simp only [offer, queryKeys, same.resource?_eq r]
  | queryParamValue => simp only [offer, queryValues, same.resource?_eq r]
  | aliases => simp only [offer, ownAliases, same.resource?_eq r, same.aliasesOf_eq r]
  | headerKey => simp only [offer, same.headers]
  | headerValue => simp only [offer, same.headers]
  | _ => rfl

/-- What is collected does not depend on the setting, whatever depth of headers it takes. -/
theorem collect_eq (depth : Nat) : ctx.collect depth r = ctx'.collect depth r := by
  induction depth generalizing r with
  | zero => rfl
  | succ depth ih =>
    have hinner : ctx.collect depth = ctx'.collect depth := funext ih
    have hoffers : ctx.offer (ctx.collect depth) r = ctx'.offer (ctx'.collect depth) r := by
      rw [hinner]
      exact funext (same.offer_eq r _)
    rw [collect, collect, hoffers]

end Offers

end Context.SameButEscaping

section Texts

def AreTexts (candidates : List Value) : Prop :=
  ∀ v ∈ candidates, ∃ text, v = .str text

theorem areTexts_map_str (texts : List String) : AreTexts (texts.map Value.str) := by
  intro v hv
  obtain ⟨text, -, rfl⟩ := List.mem_map.mp hv
  exact ⟨text, rfl⟩

theorem AreTexts.append {vs ws : List Value} (hv : AreTexts vs) (hw : AreTexts ws) :
    AreTexts (vs ++ ws) := by
  intro v h
  rcases List.mem_append.mp h with h | h
  · exact hv v h
  · exact hw v h

theorem AreTexts.exists_eq_map {vs : List Value} (h : AreTexts vs) :
    ∃ texts : List String, vs = texts.map Value.str := by
  induction vs with
  | nil => exact ⟨[], rfl⟩
  | cons v vs ih =>
    obtain ⟨⟨text, rfl⟩, hrest⟩ := List.forall_mem_cons.mp h
    obtain ⟨texts, rfl⟩ := ih hrest
    exact ⟨text :: texts, rfl⟩

namespace Context

variable {ctx : Context} {r : Request}

/-- Whether the query parameters of the operations that read have texts for names, in every resource
that can be named. -/
def NamesParametersByTexts (ctx : Context) : Prop :=
  ∀ name resource, ctx.registry.get? name = some resource →
    AreTexts (declaredParameters resource.getEntity) ∧
      AreTexts (declaredParameters resource.getCollection)

theorem areTexts_declaredParameters {resource : Option Resource} {get : Resource → Option Operation}
    (h : ∀ found, resource = some found → AreTexts (declaredParameters (get found))) :
    AreTexts (declaredParameters (resource.bind get)) := by
  cases resource with
  | none => exact fun v hv => absurd hv List.not_mem_nil
  | some found => exact h found rfl

theorem areTexts_queryKeys (hnames : ctx.NamesParametersByTexts) (r : Request) :
    AreTexts (ctx.queryKeys r) := by
  have hfound (resource : Resource) (h : ctx.resource? r = some resource) :
      AreTexts (declaredParameters resource.getEntity) ∧
        AreTexts (declaredParameters resource.getCollection) := by
    rw [resource?] at h
    split at h
    · cases h
    · exact hnames _ resource h
  rw [queryKeys]
  split
  · exact (areTexts_declaredParameters fun found h => (hfound found h).2).append
      (areTexts_map_str _)
  · split
    · exact (areTexts_declaredParameters fun found h => (hfound found h).1).append
        (areTexts_map_str _)
    · exact fun v hv => absurd hv List.not_mem_nil

theorem areTexts_queryValues (ctx : Context) (r : Request) :
    AreTexts (ctx.queryValues r).candidates := by
  rw [queryValues]
  split
  · exact areTexts_map_str []
  · split
    · exact areTexts_map_str _
    · exact areTexts_map_str _
    · exact areTexts_map_str _
    · exact areTexts_map_str []

theorem areTexts_references {target : String} {offer : Offer}
    (h : ctx.references r target = .ok offer) : AreTexts offer.candidates := by
  rw [references] at h
  split at h
  · rw [referenceSteps] at h
    split at h
    · cases h
      exact areTexts_map_str _
    · cases h
      exact areTexts_map_str _
    · obtain ⟨words, -, h⟩ := exists_of_except_bind h
      cases h
      exact areTexts_map_str _
    · obtain ⟨words, -, h⟩ := exists_of_except_bind h
      cases h
      exact areTexts_map_str _
    · cases h
      exact areTexts_map_str []
  · split at h
    · obtain ⟨names, -, h⟩ := exists_of_except_bind h
      cases h
      exact areTexts_map_str _
    · cases h
      exact areTexts_map_str []

theorem areTexts_valuesOf {type : AttributeType} {offer : Offer}
    (h : ctx.valuesOf r type = .ok offer) : AreTexts offer.candidates := by
  cases hkind : type.kind with
  | resourceRef =>
    rw [valuesOf, hkind] at h
    exact areTexts_references h
  | string =>
    rw [valuesOf, hkind] at h
    cases h
    exact areTexts_map_str []
  | conditional =>
    rw [valuesOf, hkind] at h
    cases h
    exact areTexts_map_str []
  | _ =>
    rw [valuesOf, hkind] at h
    cases h
    exact areTexts_map_str _

theorem areTexts_attributeValues {offer : Offer} (h : ctx.attributeValues r = .ok offer) :
    AreTexts offer.candidates := by
  rw [attributeValues] at h
  split at h
  · cases h
    exact areTexts_map_str []
  · obtain ⟨declaration, -, h⟩ := exists_of_except_bind h
    cases declaration with
    | none =>
      cases h
      exact areTexts_map_str _
    | some a =>
      obtain ⟨declared, hdeclared, h⟩ := exists_of_except_bind (x := ctx.valuesOf r a.type) h
      cases h
      exact (areTexts_valuesOf hdeclared).append (areTexts_map_str _)

/-- Every intent offers texts, if inner requests do. -/
theorem areTexts_offer (hnames : ctx.NamesParametersByTexts) {inner : Request → Logged Answer}
    (hinner : ∀ q answer, (inner q).result = .ok answer → AreTexts answer.candidates)
    {intent : Intent} {offer : Offer} (h : (ctx.offer inner r intent).result = .ok offer) :
    AreTexts offer.candidates := by
  cases intent with
  | attributeKey =>
    obtain ⟨keys, -, h⟩ := Logged.exists_of_bind h
    cases h
    exact areTexts_map_str _
  | attributeValue => exact areTexts_attributeValues (Logged.result_of_ofExcept h)
  | queryParamKey =>
    cases h
    exact areTexts_queryKeys hnames r
  | queryParamValue =>
    cases h
    exact areTexts_queryValues ctx r
  | aliases =>
    obtain ⟨names, -, h⟩ := Logged.exists_of_bind h
    cases h
    exact areTexts_map_str _
  | headerValue =>
    rw [Context.offer] at h
    split at h
    · obtain ⟨answer, hanswer, h⟩ := Logged.exists_of_bind h
      cases h
      exact hinner _ answer hanswer
    · cases h
      exact areTexts_map_str []
  | _ =>
    cases h
    exact areTexts_map_str _

/-- Collected candidates are texts, at every depth. -/
theorem areTexts_collect (hnames : ctx.NamesParametersByTexts) {depth : Nat} {answer : Answer}
    (h : (ctx.collect depth r).result = .ok answer) : AreTexts answer.candidates := by
  induction depth generalizing r answer with
  | zero => cases h
  | succ depth ih =>
    obtain ⟨offers, hoffers, hanswer⟩ := collect_eq_ok_iff.mp h
    obtain ⟨-, rfl⟩ := Answer.ofOffers_eq_ok_iff.mp hanswer
    intro v hv
    obtain ⟨offer, hoffer, hv⟩ := List.mem_flatMap.mp (Answer.mem_of_mem_distinct hv)
    obtain ⟨intent, -, hoffered⟩ :=
      Logged.exists_of_mem_each (Logged.result_each_eq_ok_iff.mpr hoffers) offer hoffer
    exact areTexts_offer hnames (fun q answer => ih) hoffered v hv

end Context

end Texts

namespace Answer

/-- A text with a backslash in front of each space. -/
def escapedText (text : String) : String :=
  String.ofList (escapeSpaces text.toList)

/-- A text with each pair of a backslash and a space replaced by a space. -/
def unescapedText (text : String) : String :=
  String.ofList (unescapeSpaces text.toList)

theorem unescapedText_escapedText (text : String) : unescapedText (escapedText text) = text := by
  rw [unescapedText, escapedText, String.toList_ofList, unescapeSpaces_escapeSpaces,
    String.ofList_toList]

theorem escapedText_injective : Function.Injective escapedText :=
  Function.LeftInverse.injective unescapedText_escapedText

theorem mapM_escape (texts : List String) :
    (texts.map Value.str).mapM escape = .ok ((texts.map escapedText).map Value.str) := by
  induction texts with
  | nil => rfl
  | cons text texts ih =>
    rw [List.map_cons, List.mapM_cons, ih]
    rfl

theorem nodup_of_distinct {texts : List String}
    (h : distinct (texts.map Value.str) = texts.map Value.str) : texts.Nodup := by
  have hpairwise := pairwise_distinct (texts.map Value.str)
  rw [h, List.pairwise_map] at hpairwise
  refine hpairwise.imp fun hdiffer => ?_
  rintro rfl
  simp [Value.same, Value.sameScalar] at hdiffer

end Answer

namespace Context

/-- Two contexts that differ in the escape setting alone, the first having candidates escaped and
the second not, answer a request both or fail in the same way. The candidates of either answer are
pairwise different texts, the directives are the same, and the candidates of the first become those
of the second when each pair of a backslash and a space is replaced by a space. -/
theorem complete_escaped (ctx ctx' : Context) (same : ctx.SameButEscaping ctx')
    (hon : ctx.settings.bool escapeSetting = true) (hoff : ctx'.settings.bool escapeSetting = false)
    (hnames : ctx.NamesParametersByTexts) (r : Request) :
    (∃ (escaped plain : List String) (directive : Directive),
      (ctx.complete r).result = .ok ⟨escaped.map Value.str, directive⟩ ∧
        (ctx'.complete r).result = .ok ⟨plain.map Value.str, directive⟩ ∧
        escaped.Nodup ∧ plain.Nodup ∧ escaped.map Answer.unescapedText = plain) ∨
      ∃ failure, (ctx.complete r).result = .error failure ∧
        (ctx'.complete r).result = .error failure := by
  have hcollect : ctx'.collect ctx'.depth r = ctx.collect ctx.depth r := by
    have hdepth : ctx'.depth = ctx.depth := by rw [depth, depth, same.headers]
    rw [hdepth]
    exact (same.collect_eq r ctx.depth).symm
  cases hcollected : (ctx.collect ctx.depth r).result with
  | error failure =>
    refine .inr ⟨failure, Logged.result_bind_eq_error_iff.mpr (.inl hcollected), ?_⟩
    exact Logged.result_bind_eq_error_iff.mpr (.inl (hcollect ▸ hcollected))
  | ok answer =>
    obtain ⟨-, hdistinct⟩ := candidates_of_collect hcollected
    obtain ⟨candidates, directive⟩ := answer
    obtain ⟨texts, rfl⟩ := (areTexts_collect hnames hcollected).exists_eq_map
    have hnodup : texts.Nodup := Answer.nodup_of_distinct hdistinct
    refine .inl ⟨texts.map Answer.escapedText, texts, directive, ?_, ?_, ?_, hnodup, ?_⟩
    · refine (Logged.bind_result_of_ok hcollected).trans ?_
      rw [← escapeSetting, if_pos hon, Answer.mapM_escape]
      rfl
    · refine (Logged.bind_result_of_ok (hcollect ▸ hcollected)).trans ?_
      rw [← escapeSetting, hoff]
      rfl
    · exact List.Nodup.map Answer.escapedText_injective hnodup
    · rw [List.map_map, Function.LeftInverse.comp_eq_id Answer.unescapedText_escapedText,
        List.map_id]

/-- A resource with an attribute whose values hold spaces, one of them behind a backslash, and a
header that is completed by these values. Its query parameters have texts for names. -/
def wines : Context :=
  { registry := Registry.empty.add
      { name := "wines"
        attributes := [("colour",
          { key := "colour", type := { kind := .enum, enumValues := ["deep red", "deep\\ red"] } })]
        getCollection := some ⟨.str "/wines", [.str "page size"]⟩ }
    headers := HeaderCatalog.default.add
      { name := "X-Colour"
        request := some
          { intents := Intent.attributeValue.flag, resource := "wines", attributePath := "colour" } } }

theorem complete_escaped_wines :
    let plainly : Context := { wines with
      settings := wines.settings.set escapeSetting (.bool false) }
    let r : Request :=
      { intents := Intent.attributeValue.flag + Intent.headerValue.flag, resource := "wines"
        attributePath := "colour", header := "x-colour" }
    wines.SameButEscaping plainly ∧ wines.settings.bool escapeSetting = true ∧
      plainly.settings.bool escapeSetting = false ∧ wines.NamesParametersByTexts ∧
      ((∃ (escaped plain : List String) (directive : Directive),
        (wines.complete r).result = .ok ⟨escaped.map Value.str, directive⟩ ∧
          (plainly.complete r).result = .ok ⟨plain.map Value.str, directive⟩ ∧
          escaped.Nodup ∧ plain.Nodup ∧ escaped.map Answer.unescapedText = plain) ∨
        ∃ failure, (wines.complete r).result = .error failure ∧
          (plainly.complete r).result = .error failure) := by
  intro plainly r
  have hsame : wines.SameButEscaping plainly := by
    refine ⟨rfl, rfl, rfl, rfl, fun name hname => ?_⟩
    have hfind := Table.find?_put_of_ne hname (.bool false) wines.settings.values
    simp only [plainly, Configuration.get?, Configuration.set, hfind]
  have hnames : wines.NamesParametersByTexts := by
    have hall : wines.registry.AllHold fun resource =>
        AreTexts (declaredParameters resource.getEntity) ∧
          AreTexts (declaredParameters resource.getCollection) :=
      Registry.allHold_empty.add ⟨areTexts_map_str [], areTexts_map_str ["page size"]⟩
    exact fun name resource => hall.of_get?
  have hon : wines.settings.bool escapeSetting = true := rfl
  have hoff : plainly.settings.bool escapeSetting = false := rfl
  exact ⟨hsame, hon, hoff, hnames, complete_escaped wines plainly hsame hon hoff hnames r⟩

end Context

end NextWord
