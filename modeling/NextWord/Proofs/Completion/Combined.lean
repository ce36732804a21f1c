import Mathlib.Data.List.Forall2
import Mathlib.Data.List.Induction
import NextWord.Proofs.Completion.FirstOccurrences
import NextWord.Proofs.Log.Results

/-!
# Combined intents

A request for several intents is answered as if each had been asked for alone: it has an answer
exactly if every single one has, its candidates are theirs put together, and its directive asks for
what theirs ask for. The one hint that replaces a directive instead of adding to it comes from the
values of an attribute, and no intent before them in the order has a hint at all.
-/

namespace NextWord

namespace Offer

/-- Whether no offer asks for something that a later one with files takes back. -/
def Settled (offers : List Offer) : Prop :=
  offers.Pairwise fun first second => second.hint = .files → first.hint = .plain

/-- The directive for settled offers. -/
theorem directive_of_settled {offers : List Offer} (h : Settled offers) :
    ((directive offers).noSpace = true ↔ ∃ offer ∈ offers, offer.hint = .unfinished) ∧
      ((directive offers).onlyFilesWithExtension = true ↔ ∃ offer ∈ offers, offer.hint = .files) ∧
      ((directive offers).noFiles = true ↔ ∀ offer ∈ offers, offer.hint ≠ .files) := by
  induction offers using List.reverseRecOn with
  | nil => simp [directive, Directive.usual]
  | append_singleton offers last ih =>
    obtain ⟨hbefore, -, hlast⟩ := List.pairwise_append.mp h
    obtain ⟨hspace, hfiles, hnone⟩ := ih hbefore
    rw [directive_append_singleton]
    simp only [List.mem_append, List.mem_singleton, or_and_right, exists_or, or_imp, forall_and,
      exists_eq_left, forall_eq]
    cases hhint : last.hint with
    | plain => simp [Hint.change, hspace, hfiles, hnone]
    | unfinished => simp [Hint.change, hfiles, hnone]
    | files =>
      have hno : ¬ ∃ offer ∈ offers, offer.hint = .unfinished := by
        rintro ⟨offer, hoffer, hunfinished⟩
        have hplain := hlast offer hoffer last List.mem_cons_self hhint
        simp [hplain] at hunfinished
      simp [Hint.change, hno]

end Offer

namespace Request

/-- The intents of a request, in the order in which their offers are put together. -/
def wanted (r : Request) : List Intent :=
  Intent.inOrder.filter r.wants

def only (r : Request) (intent : Intent) : Request :=
  { r with intents := intent.flag }

theorem wanted_only (r : Request) (intent : Intent) : (r.only intent).wanted = [intent] := by
  change Intent.inOrder.filter (fun other => intent.flag.testBit other.bit) = [intent]
  cases intent <;> decide

end Request

namespace Context

theorem offer_only (ctx : Context) (inner : Request → Logged Answer) (r : Request)
    (intent other : Intent) : ctx.offer inner (r.only other) intent = ctx.offer inner r intent := by
  cases intent <;> rfl

/-- Only the values of attributes and of query parameters come with hints. -/
theorem hint_of_offer {ctx : Context} {inner : Request → Logged Answer} {r : Request}
    {intent : Intent} {offer : Offer} (h : (ctx.offer inner r intent).result = .ok offer)
    (hattribute : intent ≠ .attributeValue) (hquery : intent ≠ .queryParamValue) :
    offer.hint = .plain := by
  cases intent with
  | attributeValue => exact absurd rfl hattribute
  | queryParamValue => exact absurd rfl hquery
  | attributeKey =>
    obtain ⟨keys, -, h⟩ := Logged.exists_of_bind h
    cases h
    rfl
  | aliases =>
    obtain ⟨names, -, h⟩ := Logged.exists_of_bind h
    cases h
    rfl
  | headerValue =>
    rw [Context.offer] at h
    split at h
    · obtain ⟨answer, -, h⟩ := Logged.exists_of_bind h
      cases h
      rfl
    · cases h
      rfl
  | _ =>
    cases h
    rfl

/-- The values of query parameters never are files. -/
theorem hint_queryValues (ctx : Context) (r : Request) : (ctx.queryValues r).hint ≠ .files := by
  rw [queryValues]
  split
  · simp [Offer.none]
  · split <;> simp [Offer.ofTexts, Offer.hinting, Offer.none]

theorem eq_attributeValue_of_files {ctx : Context} {inner : Request → Logged Answer} {r : Request}
    {intent : Intent} {offer : Offer} (h : (ctx.offer inner r intent).result = .ok offer)
    (hfiles : offer.hint = .files) : intent = .attributeValue := by
  by_contra hattribute
  by_cases hquery : intent = .queryParamValue
  · subst hquery
    cases h
    exact hint_queryValues ctx r hfiles
  · have hplain := hint_of_offer h hattribute hquery
    simp [hfiles] at hplain

theorem wanted_ordered (r : Request) : r.wanted.Pairwise fun first second =>
    second = .attributeValue → first ≠ .attributeValue ∧ first ≠ .queryParamValue :=
  List.Pairwise.filter _ (by decide)

/-- The offers of intents in their order are settled. -/
theorem settled_of_offers {ctx : Context} {inner : Request → Logged Answer} {r : Request}
    {intents : List Intent} {offers : List Offer}
    (hoffers : List.Forall₂ (fun intent offer => (ctx.offer inner r intent).result = .ok offer)
      intents offers)
    (hordered : intents.Pairwise fun first second =>
      second = .attributeValue → first ≠ .attributeValue ∧ first ≠ .queryParamValue) :
    Offer.Settled offers := by
  induction hoffers with
  | nil => exact .nil
  | @cons intent offer intents offers hoffer hrest ih =>
    obtain ⟨hfirst, hordered⟩ := List.pairwise_cons.mp hordered
    refine .cons (fun later hlater hfiles => ?_) (ih hordered)
    obtain ⟨other, hother, hoffered⟩ :=
      Logged.exists_of_mem_each (Logged.result_each_eq_ok_iff.mpr hrest) later hlater
    obtain ⟨hattribute, hquery⟩ := hfirst other hother (eq_attributeValue_of_files hoffered hfiles)
    exact hint_of_offer hoffer hattribute hquery

end Context

namespace Answer

def ofOffer (offer : Offer) : Answer :=
  ⟨distinct offer.candidates, offer.hint.change .usual⟩

/-- Offers make an answer exactly if none of their candidates is a list or an object. -/
theorem ofOffers_eq_ok_iff {offers : List Offer} {answer : Answer} :
    ofOffers offers = .ok answer ↔
      (∀ offer ∈ offers, ∀ v ∈ offer.candidates, v.isHashable = true) ∧
        answer = ⟨distinct (offers.flatMap Offer.candidates), Offer.directive offers⟩ := by
  have hhashable : ((offers.flatMap Offer.candidates).find? fun v => !v.isHashable) = none ↔
      ∀ offer ∈ offers, ∀ v ∈ offer.candidates, v.isHashable = true := by
    simp only [List.find?_eq_none, List.mem_flatMap]
    constructor
    · intro h offer hoffer v hv
      simpa using h v ⟨offer, hoffer, hv⟩
    · rintro h v ⟨offer, hoffer, hv⟩
      simp [h offer hoffer v hv]
  rw [ofOffers, ← hhashable]
  split
  · next hfound => simp [hfound]
  · next hnone =>
    rw [hnone, Except.ok.injEq, eq_comm]
    simp

end Answer

namespace Context

variable {ctx : Context} {depth : Nat} {r : Request}

theorem collect_eq_ok_iff {answer : Answer} :
    (ctx.collect (depth + 1) r).result = .ok answer ↔ ∃ offers,
      List.Forall₂ (fun intent offer => (ctx.offer (ctx.collect depth) r intent).result = .ok offer)
        r.wanted offers ∧ Answer.ofOffers offers = .ok answer := by
  refine Logged.result_bind_eq_ok_iff.trans ?_
  simp only [Logged.result_each_eq_ok_iff, Logged.result_ofExcept]
  rfl

/-- The answer to a single intent is made of its offer. -/
theorem collect_only_eq_ok_iff {intent : Intent} {answer : Answer} :
    (ctx.collect (depth + 1) (r.only intent)).result = .ok answer ↔ ∃ offer,
      (ctx.offer (ctx.collect depth) r intent).result = .ok offer ∧
        (∀ v ∈ offer.candidates, v.isHashable = true) ∧
        answer = .ofOffer offer := by
  rw [collect_eq_ok_iff, Request.wanted_only]
  simp only [offer_only, Answer.ofOffers_eq_ok_iff]
  constructor
  · rintro ⟨offers, hoffers, hhashable, hanswer⟩
    obtain _ | ⟨hoffer, _ | _⟩ := hoffers
    exact ⟨_, hoffer, hhashable _ List.mem_cons_self,
      by simpa [Answer.ofOffer, Offer.directive] using hanswer⟩
  · rintro ⟨offer, hoffer, hhashable, hanswer⟩
    exact ⟨[offer], .cons hoffer .nil, by simpa using hhashable,
      by simpa [Answer.ofOffer, Offer.directive] using hanswer⟩

/-- A request has an answer exactly if all its intents have offers without lists and objects. -/
theorem exists_collect_iff :
    (∃ answer, (ctx.collect (depth + 1) r).result = .ok answer) ↔
      ∀ intent ∈ r.wanted, ∃ offer, (ctx.offer (ctx.collect depth) r intent).result = .ok offer ∧
        ∀ v ∈ offer.candidates, v.isHashable = true := by
  rw [← Logged.exists_forall₂_iff]
  simp only [collect_eq_ok_iff, Answer.ofOffers_eq_ok_iff]
  constructor
  · rintro ⟨-, offers, hoffers, hhashable, -⟩
    exact ⟨offers, hoffers, hhashable⟩
  · rintro ⟨offers, hoffers, hhashable⟩
    exact ⟨_, offers, hoffers, hhashable, rfl⟩

/-- The answers to single intents are made of the offers that a request for all of them has. -/
theorem map_single {intents : List Intent} {offers : List Offer} {single : Intent → Answer}
    (hoffers : List.Forall₂
      (fun intent offer => (ctx.offer (ctx.collect depth) r intent).result = .ok offer)
      intents offers)
    (hsingle : ∀ intent ∈ intents,
      (ctx.collect (depth + 1) (r.only intent)).result = .ok (single intent)) :
    intents.map single = offers.map Answer.ofOffer := by
  induction hoffers with
  | nil => rfl
  | @cons intent offer intents offers hoffer _ ih =>
    obtain ⟨hfirst, hrest⟩ := List.forall_mem_cons.mp hsingle
    obtain ⟨same, hsame, -, hanswer⟩ := collect_only_eq_ok_iff.mp hfirst
    obtain rfl := Except.ok.inj (hoffer.symm.trans hsame)
    rw [List.map_cons, List.map_cons, hanswer, ih hrest]

end Context

/-- What a directive asks for after a single hint. -/
theorem Hint.change_usual (hint : Hint) :
    ((hint.change .usual).noSpace = true ↔ hint = .unfinished) ∧
      ((hint.change .usual).onlyFilesWithExtension = true ↔ hint = .files) ∧
      ((hint.change .usual).noFiles = true ↔ hint ≠ .files) := by
  cases hint <;> decide

namespace Context

variable {ctx : Context} {depth : Nat} {r : Request}

/-- A single intent has an answer exactly if it has an offer without lists and objects. -/
theorem exists_collect_only_iff {intent : Intent} :
    (∃ single, (ctx.collect (depth + 1) (r.only intent)).result = .ok single) ↔
      ∃ offer, (ctx.offer (ctx.collect depth) r intent).result = .ok offer ∧
        ∀ v ∈ offer.candidates, v.isHashable = true := by
  constructor
  · rintro ⟨single, hsingle⟩
    obtain ⟨offer, hoffer, hhashable, -⟩ := collect_only_eq_ok_iff.mp hsingle
    exact ⟨offer, hoffer, hhashable⟩
  · rintro ⟨offer, hoffer, hhashable⟩
    exact ⟨_, collect_only_eq_ok_iff.mpr ⟨offer, hoffer, hhashable, rfl⟩⟩

/-- The answer to a request in terms of the answers to its single intents. -/
theorem combined_of_single {combined : Answer} {single : Intent → Answer}
    (hcombined : (ctx.collect (depth + 1) r).result = .ok combined)
    (hsingle : ∀ intent ∈ r.wanted,
      (ctx.collect (depth + 1) (r.only intent)).result = .ok (single intent)) :
    combined.candidates =
        Answer.distinct (r.wanted.flatMap fun intent => (single intent).candidates) ∧
      (combined.directive.noSpace = true ↔
        ∃ intent ∈ r.wanted, (single intent).directive.noSpace = true) ∧
      (combined.directive.onlyFilesWithExtension = true ↔
        ∃ intent ∈ r.wanted, (single intent).directive.onlyFilesWithExtension = true) ∧
      (combined.directive.noFiles = true ↔
        ∀ intent ∈ r.wanted, (single intent).directive.noFiles = true) := by
  obtain ⟨offers, hoffers, hanswer⟩ := collect_eq_ok_iff.mp hcombined
  obtain ⟨hhashable, rfl⟩ := Answer.ofOffers_eq_ok_iff.mp hanswer
  obtain ⟨hspace, hfiles, hnone⟩ :=
    Offer.directive_of_settled (settled_of_offers hoffers (wanted_ordered r))
  have hmap := map_single hoffers hsingle
  have hforall (p : Answer → Prop) :
      (∀ intent ∈ r.wanted, p (single intent)) ↔ ∀ offer ∈ offers, p (.ofOffer offer) := by
    rw [← List.forall_mem_map, hmap, List.forall_mem_map]
  have hexists (p : Answer → Prop) :
      (∃ intent ∈ r.wanted, p (single intent)) ↔ ∃ offer ∈ offers, p (.ofOffer offer) := by
    simpa using not_congr (hforall fun answer => ¬ p answer)
  have hcandidates := congrArg (List.flatMap Answer.candidates) hmap
  rw [List.flatMap_map, List.flatMap_map] at hcandidates
  refine ⟨?_, ?_, ?_, ?_⟩
  · rw [hcandidates]
    exact (Answer.distinct_flatMap_distinct hhashable).symm
  · rw [hspace, hexists fun answer => answer.directive.noSpace = true]
    simp only [Answer.ofOffer, Hint.change_usual]
  · rw [hfiles, hexists fun answer => answer.directive.onlyFilesWithExtension = true]
    simp only [Answer.ofOffer, Hint.change_usual]
  · rw [hnone, hforall fun answer => answer.directive.noFiles = true]
    simp only [Answer.ofOffer, Hint.change_usual]

/-- Intents that are combined do not interfere. A request has an answer exactly if it has one for
each of its intents alone, which is if each intent has an offer that no list and no object is in.
The candidates are those of the single answers, the first of equal ones being kept; the directive
forbids a space, or asks for files, if some single one does, and forbids files if all single ones
do. -/
theorem collect_combined (ctx : Context) (depth : Nat) (r : Request) :
    ((∃ combined, (ctx.collect (depth + 1) r).result = .ok combined) ↔
      ∀ intent ∈ r.wanted, ∃ single,
        (ctx.collect (depth + 1) (r.only intent)).result = .ok single) ∧
    ((∃ combined, (ctx.collect (depth + 1) r).result = .ok combined) ↔
      ∀ intent ∈ r.wanted, ∃ offer, (ctx.offer (ctx.collect depth) r intent).result = .ok offer ∧
        ∀ v ∈ offer.candidates, v.isHashable = true) ∧
    ∀ (combined : Answer) (single : Intent → Answer),
      (ctx.collect (depth + 1) r).result = .ok combined →
      (∀ intent ∈ r.wanted,
        (ctx.collect (depth + 1) (r.only intent)).result = .ok (single intent)) →
      combined.candidates =
          Answer.distinct (r.wanted.flatMap fun intent => (single intent).candidates) ∧
        (combined.directive.noSpace = true ↔
          ∃ intent ∈ r.wanted, (single intent).directive.noSpace = true) ∧
        (combined.directive.onlyFilesWithExtension = true ↔
          ∃ intent ∈ r.wanted, (single intent).directive.onlyFilesWithExtension = true) ∧
        (combined.directive.noFiles = true ↔
          ∀ intent ∈ r.wanted, (single intent).directive.noFiles = true) := by
  refine ⟨?_, exists_collect_iff, fun combined single => combined_of_single⟩
  rw [exists_collect_iff]
  exact forall₂_congr fun intent _ => exists_collect_only_iff.symm

/-- A resource with an attribute whose value is a file. -/
def uploads : Context :=
  { registry := Registry.empty.add
      { name := "uploads"
        attributes := [("image", { key := "image", type := ⟨.file, [], ""⟩ })] } }

/-- The value of that attribute is asked for together with the values of a filter. -/
def uploadOrFilter : Request :=
  { intents := Intent.attributeValue.flag + Intent.queryParamValue.flag
    resource := "uploads"
    attributePath := "image"
    verb := Nat.pow 2 Verb.getAll.bit
    queryParam := "filter" }

theorem collect_combined_uploads : ∃ (combined : Answer) (single : Intent → Answer),
    (uploads.collect 1 uploadOrFilter).result = .ok combined ∧
      (∀ intent ∈ uploadOrFilter.wanted,
        (uploads.collect 1 (uploadOrFilter.only intent)).result = .ok (single intent)) ∧
      combined.directive = { noSpace := true, onlyFilesWithExtension := true } ∧
      combined.candidates = Answer.distinct
        (uploadOrFilter.wanted.flatMap fun intent => (single intent).candidates) := by
  let single (intent : Intent) : Answer :=
    ((uploads.collect 1 (uploadOrFilter.only intent)).result.toOption).getD ⟨[], .usual⟩
  have hwanted : uploadOrFilter.wanted = [.attributeValue, .queryParamValue] := by decide
  have hsingle : ∀ intent ∈ uploadOrFilter.wanted,
      (uploads.collect 1 (uploadOrFilter.only intent)).result = .ok (single intent) := by
    rw [hwanted]
    simp only [List.forall_mem_cons]
    exact ⟨rfl, rfl, by simp⟩
  obtain ⟨hexists, -, hlaw⟩ := collect_combined uploads 0 uploadOrFilter
  obtain ⟨combined, hcombined⟩ := hexists.mpr fun intent hintent => ⟨_, hsingle intent hintent⟩
  obtain ⟨hcandidates, hspace, hfiles, hnone⟩ := hlaw combined single hcombined hsingle
  refine ⟨combined, single, hcombined, hsingle, ?_, hcandidates⟩
  rw [hwanted] at hspace hfiles hnone
  have hspace' : combined.directive.noSpace = true :=
    hspace.mpr ⟨.queryParamValue, by simp, rfl⟩
  have hfiles' : combined.directive.onlyFilesWithExtension = true :=
    hfiles.mpr ⟨.attributeValue, by simp, rfl⟩
  have hnone' : combined.directive.noFiles = false := by
    rw [← Bool.not_eq_true, hnone]
    intro h
    exact absurd (h .attributeValue (by simp)) (by decide)
  cases hdirective : combined.directive
  simp_all

end Context
end NextWord
