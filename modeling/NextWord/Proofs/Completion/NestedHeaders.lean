import NextWord.Proofs.Completion.Combined
import NextWord.Proofs.Resource.WellKeyed

/-!
# Values of headers

The value of a header is completed by the request that the catalog gives for it, as if that request
had been made directly: with the same candidates or the same failure. The directive is the usual one
whatever the inner request asks for.

Requests may stand inside one another as often as there are headers. More depth changes nothing for
the requests of the catalog: those that are still endless at some depth become fewer with each step,
and once a step leaves them as they are, every further one does.
-/

namespace NextWord

def Failure.isEndless : Except Failure Answer → Bool
  | .error .endlessHeaders => true
  | _ => false

theorem Failure.isEndless_iff {outcome : Except Failure Answer} :
    isEndless outcome = true ↔ outcome = .error .endlessHeaders := by
  rw [isEndless.eq_def]
  split
  · simp
  · next h => simpa using h

namespace Context

variable {ctx : Context} {n : Nat} {r q : Request}

/-- The requests that complete the values of headers. -/
def nested (ctx : Context) : List Request :=
  ctx.headers.entries.values.filterMap Header.request

theorem length_nested_le (ctx : Context) : ctx.nested.length ≤ ctx.headers.entries.length := by
  calc ctx.nested.length ≤ ctx.headers.entries.values.length := List.length_filterMap_le _ _
    _ = ctx.headers.entries.length := List.length_map _

theorem mem_nested (h : ctx.headers.requestFor r.header = some q) : q ∈ ctx.nested := by
  obtain ⟨header, hheader, hrequest⟩ := Option.bind_eq_some_iff.mp h
  have hvalue : header ∈ ctx.headers.entries.values :=
    List.mem_map.mpr ⟨_, Table.mem_of_find?_eq_some hheader, rfl⟩
  exact List.mem_filterMap.mpr ⟨header, hvalue, hrequest⟩

section Depth

variable {inner other : Request → Logged Answer}

/-- An offer depends on the inner request for the header alone. -/
theorem result_offer_congr
    (h : ∀ q, ctx.headers.requestFor r.header = some q → (inner q).result = (other q).result)
    (intent : Intent) : (ctx.offer inner r intent).result = (ctx.offer other r intent).result := by
  cases intent with
  | headerValue =>
    rw [offer, offer]
    split
    · next q hq => exact Logged.result_bind_congr (h q hq) fun _ _ => rfl
    · rfl
  | _ => rfl

theorem result_offer_eq_of_ne
    (h : ∀ q, (inner q).result ≠ .error .endlessHeaders → (other q).result = (inner q).result)
    {intent : Intent} (hne : (ctx.offer inner r intent).result ≠ .error .endlessHeaders) :
    (ctx.offer other r intent).result = (ctx.offer inner r intent).result := by
  cases intent with
  | headerValue =>
    refine result_offer_congr (fun q hq => h q fun hendless => hne ?_) _
    rw [offer, hq]
    exact Logged.result_bind_eq_error_iff.mpr (.inl hendless)
  | _ => rfl

end Depth

/-- What is not endless at some depth stays as it is at greater depth. -/
theorem result_collect_succ (h : (ctx.collect n r).result ≠ .error .endlessHeaders) :
    (ctx.collect (n + 1) r).result = (ctx.collect n r).result := by
  induction n generalizing r with
  | zero => exact absurd rfl h
  | succ n ih =>
    have heach : (Logged.each (ctx.offer (ctx.collect n) r) r.wanted).result ≠
        .error .endlessHeaders :=
      fun hendless => h (Logged.result_bind_eq_error_iff.mpr (.inl hendless))
    have hoffers := Logged.result_each_eq_of_ne
      (fun intent _ => result_offer_eq_of_ne fun q => ih (r := q)) heach
    exact Logged.result_bind_congr hoffers fun _ _ => rfl

/-- One more step of depth changes nothing for the requests of the catalog. -/
def Settled (ctx : Context) (n : Nat) : Prop :=
  ∀ q ∈ ctx.nested, (ctx.collect (n + 1) q).result = (ctx.collect n q).result

theorem Settled.result_collect (h : ctx.Settled n) (r : Request) :
    (ctx.collect (n + 2) r).result = (ctx.collect (n + 1) r).result := by
  have hoffers (intent : Intent) : (ctx.offer (ctx.collect (n + 1)) r intent).result =
      (ctx.offer (ctx.collect n) r intent).result :=
    result_offer_congr (fun q hq => h q (mem_nested hq)) intent
  exact Logged.result_bind_congr (Logged.result_each_congr fun intent _ => hoffers intent)
    fun _ _ => rfl

theorem Settled.succ (h : ctx.Settled n) : ctx.Settled (n + 1) :=
  fun q _ => h.result_collect q

/-- The requests of the catalog that are endless at some depth. -/
def endless (ctx : Context) (n : Nat) : List Request :=
  ctx.nested.filter fun q => Failure.isEndless (ctx.collect n q).result

theorem endless_succ_sublist (ctx : Context) (n : Nat) :
    (ctx.endless (n + 1)).Sublist (ctx.endless n) := by
  refine List.monotone_filter_right _ fun q hq => ?_
  by_contra hbefore
  rw [Failure.isEndless_iff] at hq hbefore
  exact hbefore ((result_collect_succ hbefore).symm.trans hq)

theorem settled_of_endless_eq (h : ctx.endless (n + 1) = ctx.endless n) : ctx.Settled n := by
  intro q hq
  by_cases hendless : (ctx.collect n q).result = .error .endlessHeaders
  · have hmem : q ∈ ctx.endless (n + 1) := by
      rw [h]
      exact List.mem_filter.mpr ⟨hq, Failure.isEndless_iff.mpr hendless⟩
    rw [hendless]
    exact Failure.isEndless_iff.mp (List.mem_filter.mp hmem).2
  · exact result_collect_succ hendless

/-- As long as nothing is settled, each step leaves one endless request less. -/
theorem settled_or_length_le (ctx : Context) (n : Nat) :
    ctx.Settled n ∨ (ctx.endless n).length + n ≤ ctx.nested.length := by
  induction n with
  | zero => exact .inr (List.length_filter_le _ _)
  | succ n ih =>
    by_cases hsettled : ctx.Settled n
    · exact .inl hsettled.succ
    · have hlength := ih.resolve_left hsettled
      have hsublist := ctx.endless_succ_sublist n
      have hfewer : (ctx.endless (n + 1)).length ≠ (ctx.endless n).length :=
        fun h => hsettled (settled_of_endless_eq (hsublist.eq_of_length h))
      have hle := hsublist.length_le
      exact .inr (by omega)

/-- As many requests inside one another as there are headers settle the matter. -/
theorem settled_entries (ctx : Context) : ctx.Settled ctx.headers.entries.length := by
  rcases ctx.settled_or_length_le ctx.headers.entries.length with hsettled | hlength
  · exact hsettled
  · have hnone : ctx.endless ctx.headers.entries.length = [] := by
      have hle := ctx.length_nested_le
      exact List.length_eq_zero_iff.mp (by omega)
    have hnext := ctx.endless_succ_sublist ctx.headers.entries.length
    rw [hnone] at hnext
    exact settled_of_endless_eq (by rw [hnone, List.sublist_nil.mp hnext])

/-- Candidates that were collected are hashable and occur once. -/
theorem candidates_of_collect {answer : Answer} (h : (ctx.collect n r).result = .ok answer) :
    (∀ v ∈ answer.candidates, v.isHashable = true) ∧
      Answer.distinct answer.candidates = answer.candidates := by
  cases n with
  | zero => cases h
  | succ n =>
    obtain ⟨offers, -, hanswer⟩ := collect_eq_ok_iff.mp h
    obtain ⟨hhashable, rfl⟩ := Answer.ofOffers_eq_ok_iff.mp hanswer
    refine ⟨fun v hv => ?_, Answer.distinct_distinct _⟩
    obtain ⟨offer, hoffer, hv⟩ := List.mem_flatMap.mp (Answer.mem_of_mem_distinct hv)
    exact hhashable offer hoffer v hv

end Context

def Answer.asUsual (answer : Answer) : Answer :=
  { answer with directive := .usual }

namespace Context

variable {ctx : Context} {n : Nat} {r q : Request}

/-- A header's value has the candidates and the failures of the inner request. -/
theorem result_collect_headerValue (h : ctx.headers.requestFor r.header = some q) :
    (ctx.collect (n + 1) (r.only .headerValue)).result =
      (ctx.collect n q).result.map Answer.asUsual := by
  have hoffer : ctx.offer (ctx.collect n) r .headerValue =
      (ctx.collect n q).bind fun answer => .pure ⟨answer.candidates, .plain⟩ := by
    rw [offer, h]
    rfl
  cases hinner : (ctx.collect n q).result with
  | ok answer =>
    obtain ⟨hhashable, hdistinct⟩ := candidates_of_collect hinner
    refine collect_only_eq_ok_iff.mpr ⟨⟨answer.candidates, .plain⟩, ?_, hhashable, ?_⟩
    · rw [hoffer, Logged.bind_result_of_ok hinner]
      rfl
    · simp [Answer.ofOffer, Answer.asUsual, hdistinct, Hint.change]
  | error failure =>
    have hfails : (ctx.offer (ctx.collect n) (r.only .headerValue) .headerValue).result =
        .error failure := by
      rw [offer_only, hoffer]
      exact Logged.result_bind_eq_error_iff.mpr (.inl hinner)
    refine Logged.result_bind_eq_error_iff.mpr (.inl ?_)
    change (Logged.each _ (r.only .headerValue).wanted).result = _
    rw [Request.wanted_only]
    exact Logged.result_bind_eq_error_iff.mpr (.inl hfails)

/-- Escaping leaves the directive as it is. -/
theorem result_complete_asUsual
    (h : (ctx.collect ctx.depth r).result = (ctx.collect ctx.depth q).result.map Answer.asUsual) :
    (ctx.complete r).result = (ctx.complete q).result.map Answer.asUsual := by
  cases hinner : (ctx.collect ctx.depth q).result with
  | error failure =>
    rw [hinner] at h
    have hleft : (ctx.complete r).result = .error failure :=
      Logged.result_bind_eq_error_iff.mpr (.inl h)
    have hright : (ctx.complete q).result = .error failure :=
      Logged.result_bind_eq_error_iff.mpr (.inl hinner)
    rw [hleft, hright]
    rfl
  | ok answer =>
    rw [hinner] at h
    refine (Logged.bind_result_of_ok h).trans ?_
    refine Eq.trans ?_ (congrArg (Except.map Answer.asUsual) (Logged.bind_result_of_ok hinner).symm)
    split
    · change (Logged.bind (.ofExcept (answer.candidates.mapM Answer.escape)) _).result =
        (Logged.bind (.ofExcept (answer.candidates.mapM Answer.escape)) _).result.map _
      cases answer.candidates.mapM Answer.escape <;> rfl
    · rfl

/-- Completing the value of a header whose value is completed by another request: the outcome is
that of the other request, directive apart, so the two agree altogether exactly if the other one asks
for the usual directive. -/
theorem complete_headerValue (ctx : Context) (r q : Request)
    (h : ctx.headers.requestFor r.header = some q) :
    (ctx.complete (r.only .headerValue)).result = (ctx.complete q).result.map Answer.asUsual ∧
      ((ctx.complete (r.only .headerValue)).result = (ctx.complete q).result ↔
        ∀ answer, (ctx.complete q).result = .ok answer → answer.directive = .usual) := by
  have hsettled : (ctx.collect ctx.depth q).result =
      (ctx.collect ctx.headers.entries.length q).result :=
    ctx.settled_entries q (mem_nested h)
  have hlaw : (ctx.complete (r.only .headerValue)).result =
      (ctx.complete q).result.map Answer.asUsual := by
    refine result_complete_asUsual ?_
    rw [hsettled]
    exact result_collect_headerValue h
  refine ⟨hlaw, ?_⟩
  rw [hlaw]
  cases hinner : (ctx.complete q).result with
  | error failure => simp [Except.map]
  | ok answer =>
    obtain ⟨candidates, directive⟩ := answer
    simp [Except.map, Answer.asUsual, eq_comm]

def siteValues : Request :=
  { intents := Intent.attributeValue.flag, resource := "customers", attributePath := "site" }

/-- A header whose value is the address of a site, and one whose value is that of the first. -/
def sites : Context :=
  { registry := Registry.empty.add
      { name := "customers", attributes := [("site", { key := "site", type := { kind := .url } })] }
    headers := HeaderCatalog.default.addAll
      [{ name := "X-Site", request := some siteValues },
        { name := "X-Outer"
          request := some { intents := Intent.headerValue.flag, header := "X-Site" } }] }

theorem complete_headerValue_outer :
    sites.headers.requestFor "x-outer" =
        some { intents := Intent.headerValue.flag, header := "X-Site" } ∧
      (sites.complete ({ header := "x-outer" : Request }.only .headerValue)).result =
        (sites.complete { intents := Intent.headerValue.flag, header := "X-Site" }).result := by
  have hrequest : sites.headers.requestFor "x-outer" =
      some { intents := Intent.headerValue.flag, header := "X-Site" } := rfl
  obtain ⟨-, hagree⟩ := complete_headerValue sites { header := "x-outer" } _ hrequest
  refine ⟨hrequest, hagree.mpr fun answer hanswer => ?_⟩
  have hinner : (sites.complete { intents := Intent.headerValue.flag, header := "X-Site" }).result =
      .ok ⟨[.str "https://"], .usual⟩ := rfl
  rw [Except.ok.inj (hanswer.symm.trans hinner)]

/-- An address is not finished, so no space is to follow it; behind the header this gets lost. -/
theorem not_forall_complete_headerValue :
    ¬ ∀ (ctx : Context) (r q : Request), ctx.headers.requestFor r.header = some q →
      q.wants .headerValue = false → ∀ outer inner,
        (ctx.complete (r.only .headerValue)).result = .ok outer →
        (ctx.complete q).result = .ok inner →
        outer.candidates = inner.candidates ∧ outer.directive = inner.directive := by
  intro claim
  obtain ⟨-, hdirective⟩ := claim sites { header := "X-Site" } siteValues rfl rfl
    ⟨[.str "https://"], .usual⟩ ⟨[.str "https://"], { noSpace := true, noFiles := true }⟩ rfl rfl
  exact absurd hdirective (by decide)

end Context
end NextWord
