import NextWord.Completion.Attributes
import NextWord.Proofs.Log.Results
import NextWord.Proofs.Predicate.InOrder
import NextWord.Proofs.Resource.WellKeyed

/-!
# Literal attributes that are offered

A literal attribute is offered under each free path where its predicate is missing, true or at
fault. One judge may decide about all attributes in turn, as each of them stands under its own key.
Only a predicate that fails with more than a fault of its own ends the offer.
-/

namespace NextWord

/-- A predicate does not keep an attribute from being offered under a path. -/
inductive Predicate.Admits (env : Environment) (a : Attribute) (path : String) : Prop
  | missing (absent : ofAttribute a = .ok none)
  | holds {e : Expr} {v : Value} (read : ofAttribute a = .ok (some e))
      (value : (e.forPath path.toList).eval env = .ok v) (truthy : v.isTruthy = true)
  | atFault {fault : PredicateFault} (fails : isVisible env a path = .error fault)

namespace Predicate

theorem isVisible_eq_true_iff {env : Environment} {a : Attribute} {path : String} :
    isVisible env a path = .ok true ↔ ofAttribute a = .ok none ∨
      ∃ e v, ofAttribute a = .ok (some e) ∧ (e.forPath path.toList).eval env = .ok v ∧
        v.isTruthy = true := by
  rw [isVisible]
  cases hread : ofAttribute a with
  | error fault => simp
  | ok predicate =>
    cases predicate with
    | none => simp [decideFor]
    | some e =>
      cases hvalue : (e.forPath path.toList).eval env with
      | error fault => simp [decideFor, hvalue]
      | ok v => simp [decideFor, hvalue]

theorem admits_iff {env : Environment} {a : Attribute} {path : String} :
    Admits env a path ↔
      isVisible env a path = .ok true ∨ ∃ fault, isVisible env a path = .error fault := by
  rw [isVisible_eq_true_iff]
  constructor
  · intro h
    cases h with
    | missing absent => exact .inl (.inl absent)
    | holds read value truthy => exact .inl (.inr ⟨_, _, read, value, truthy⟩)
    | atFault fails => exact .inr ⟨_, fails⟩
  · rintro ((absent | ⟨e, v, read, value, truthy⟩) | ⟨fault, fails⟩)
    · exact .missing absent
    · exact .holds read value truthy
    · exact .atFault fails

/-- A predicate that decides, or fails with a fault of its own, settles the matter. -/
theorem settled_eq_ok_iff {path : String} {answer : Except PredicateFault Bool} {offered : Bool} :
    (settled path answer).result = .ok offered ↔
      answer = .ok offered ∨ (offered = true ∧ ∃ fault, answer = .error fault ∧ fault.isOwn) := by
  cases answer with
  | ok visible => simp [settled]
  | error fault =>
    cases hown : fault.isOwn with
    | true => cases offered <;> simp [settled, hown]
    | false => simp [settled, hown, Logged.fail]

end Predicate

namespace Judge

variable {ctx : Context} {r : Request} {j : Judge}

/-- Attributes with the same key are the same. -/
def KeysApart (pairs : List (Attribute × String)) : Prop :=
  ∀ p ∈ pairs, ∀ q ∈ pairs, p.1.key = q.1.key → p.1 = q.1

theorem KeysApart.tail {p : Attribute × String} {pairs : List (Attribute × String)}
    (h : KeysApart (p :: pairs)) : KeysApart pairs :=
  fun q hq s hs => h q (List.mem_cons_of_mem p hq) s (List.mem_cons_of_mem p hs)

theorem KeysApart.sameConditions {pairs : List (Attribute × String)} (h : KeysApart pairs) :
    SameConditions pairs := by
  intro p hp q hq hkey
  have heq : p.1 = q.1 := h p hp q hq hkey
  rw [heq]
  exact ⟨rfl, rfl⟩

theorem ask_of_knows {a : Attribute} (h : j.Knows a) (path : String) :
    (j.ask (ctx.skipVisibility r) a path).2 = ctx.isOffered r j.environment a path := by
  rw [ask, Context.isOffered]
  split
  · rfl
  · rw [← decide_of_knows h path]

theorem environment_ask (unchecked : Bool) (j : Judge) (a : Attribute) (path : String) :
    (j.ask unchecked a path).1.environment = j.environment := by
  rw [ask]
  split
  · rfl
  · exact environment_decide j a path

/-- A judge that has been asked about one attribute still knows the others. -/
theorem knows_ask (unchecked : Bool) {a : Attribute} {path : String}
    {pairs : List (Attribute × String)} (knows : ∀ p ∈ (a, path) :: pairs, j.Knows p.1)
    (apart : KeysApart ((a, path) :: pairs)) :
    ∀ p ∈ pairs, (j.ask unchecked a path).1.Knows p.1 := by
  intro p hp
  rw [ask]
  split
  · exact knows p (List.mem_cons_of_mem _ hp)
  · exact knows_of_sameConditions apart.sameConditions knows p hp

theorem offeredPaths_cons (unchecked : Bool) (j : Judge) (a : Attribute) (path : String)
    (rest : List (Attribute × String)) :
    j.offeredPaths unchecked ((a, path) :: rest) =
      (j.ask unchecked a path).2.bind fun offered =>
        ((j.ask unchecked a path).1.offeredPaths unchecked rest).bind fun others =>
          .pure (if offered then path :: others else others) := rfl

/-- A judge lets through only what it was asked about. -/
theorem exists_asked_of_mem {unchecked : Bool} {j : Judge}
    {pairs : List (Attribute × String)} {paths : List String}
    (h : (j.offeredPaths unchecked pairs).result = .ok paths) :
    ∀ path ∈ paths, ∃ a, (a, path) ∈ pairs := by
  induction pairs generalizing j paths with
  | nil =>
    obtain rfl := Except.ok.inj h
    simp
  | cons first rest ih =>
    obtain ⟨a, own⟩ := first
    rw [offeredPaths_cons] at h
    obtain ⟨offered, -, h⟩ := Logged.exists_of_bind h
    obtain ⟨others, hothers, h⟩ := Logged.exists_of_bind h
    obtain rfl := Except.ok.inj h
    intro path hpath
    have hcases : path = own ∨ path ∈ others := by
      cases offered with
      | true => exact List.mem_cons.mp hpath
      | false => exact .inr hpath
    rcases hcases with rfl | hpath
    · exact ⟨a, List.mem_cons_self⟩
    · obtain ⟨b, hb⟩ := ih hothers path hpath
      exact ⟨b, List.mem_cons_of_mem _ hb⟩

/-- One judge asked about attributes in turn comes to an end exactly if each alone does. -/
theorem exists_offeredPaths_iff {pairs : List (Attribute × String)}
    (knows : ∀ p ∈ pairs, j.Knows p.1) (apart : KeysApart pairs) :
    (∃ paths, (j.offeredPaths (ctx.skipVisibility r) pairs).result = .ok paths) ↔
      ∀ p ∈ pairs, ∃ offered, (ctx.isOffered r j.environment p.1 p.2).result = .ok offered := by
  induction pairs generalizing j with
  | nil => exact iff_of_true ⟨[], rfl⟩ (by simp)
  | cons first rest ih =>
    obtain ⟨a, path⟩ := first
    have hrest := ih (knows_ask (ctx.skipVisibility r) knows apart) apart.tail
    rw [environment_ask] at hrest
    rw [List.forall_mem_cons, ← hrest, ← ask_of_knows (knows _ List.mem_cons_self),
      offeredPaths_cons]
    constructor
    · rintro ⟨paths, h⟩
      obtain ⟨offered, hoffered, h⟩ := Logged.exists_of_bind h
      obtain ⟨others, hothers, -⟩ := Logged.exists_of_bind h
      exact ⟨⟨offered, hoffered⟩, others, hothers⟩
    · rintro ⟨⟨offered, hoffered⟩, others, hothers⟩
      exact ⟨_, Logged.result_bind_eq_ok_iff.mpr
        ⟨offered, hoffered, Logged.result_bind_eq_ok_iff.mpr ⟨others, hothers, rfl⟩⟩⟩

/-- The paths it lets through are those that are offered each by itself. -/
theorem mem_offeredPaths_iff {pairs : List (Attribute × String)} {paths : List String}
    (knows : ∀ p ∈ pairs, j.Knows p.1) (apart : KeysApart pairs)
    (h : (j.offeredPaths (ctx.skipVisibility r) pairs).result = .ok paths) {path : String} :
    path ∈ paths ↔ ∃ a, (a, path) ∈ pairs ∧
      (ctx.isOffered r j.environment a path).result = .ok true := by
  induction pairs generalizing j paths with
  | nil =>
    obtain rfl := Except.ok.inj h
    simp
  | cons first rest ih =>
    obtain ⟨a, own⟩ := first
    rw [offeredPaths_cons, ask_of_knows (knows _ List.mem_cons_self)] at h
    obtain ⟨offered, hoffered, h⟩ := Logged.exists_of_bind h
    obtain ⟨others, hothers, h⟩ := Logged.exists_of_bind h
    have hrest := ih (knows_ask (ctx.skipVisibility r) knows apart) apart.tail hothers
    rw [environment_ask] at hrest
    obtain rfl := Except.ok.inj h
    have hhere : (∃ b, (b, path) ∈ (a, own) :: rest ∧
        (ctx.isOffered r j.environment b path).result = .ok true) ↔
        (path = own ∧ offered = true) ∨ path ∈ others := by
      rw [hrest]
      constructor
      · rintro ⟨b, hb, hyes⟩
        rcases List.mem_cons.mp hb with hsame | hb
        · obtain ⟨rfl, rfl⟩ := Prod.mk.inj hsame
          exact .inl ⟨rfl, Except.ok.inj (hoffered.symm.trans hyes)⟩
        · exact .inr ⟨b, hb, hyes⟩
      · rintro (⟨rfl, rfl⟩ | ⟨b, hb, hyes⟩)
        · exact ⟨a, List.mem_cons_self, hoffered⟩
        · exact ⟨b, List.mem_cons_of_mem _ hb, hyes⟩
    rw [hhere]
    cases offered <;> simp

end Judge

namespace Context

variable {ctx : Context} {r : Request}

theorem isOffered_eq_true_iff {env : Environment} {a : Attribute} {path : String}
    (checked : ctx.skipVisibility r = false)
    (own : ∀ fault, Predicate.isVisible env a path = .error fault → fault.isOwn = true) :
    (ctx.isOffered r env a path).result = .ok true ↔ Predicate.Admits env a path := by
  rw [isOffered, checked, Bool.false_or, Predicate.admits_iff]
  cases hconditional : a.isConditional with
  | false =>
    have habsent := Predicate.ofAttribute_eq_ok_none_iff.mpr hconditional
    simp [Predicate.isVisible_eq_true_iff, habsent]
  | true =>
    rw [if_neg (by simp), Predicate.settled_eq_ok_iff]
    refine or_congr_right ⟨?_, ?_⟩
    · rintro ⟨-, fault, hfault, -⟩
      exact ⟨fault, hfault⟩
    · rintro ⟨fault, hfault⟩
      exact ⟨rfl, fault, hfault, own fault hfault⟩

/-- Whether an attribute is offered is answered exactly if its predicate fails with faults of its
own only. -/
theorem exists_isOffered_iff {env : Environment} {a : Attribute} {path : String}
    (checked : ctx.skipVisibility r = false) :
    (∃ offered, (ctx.isOffered r env a path).result = .ok offered) ↔
      ∀ fault, Predicate.isVisible env a path = .error fault → fault.isOwn = true := by
  rw [isOffered, checked, Bool.false_or]
  cases hconditional : a.isConditional with
  | false =>
    have hvisible : Predicate.isVisible env a path = .ok true :=
      Predicate.isVisible_eq_true_iff.mpr
        (.inl (Predicate.ofAttribute_eq_ok_none_iff.mpr hconditional))
    simp [hvisible]
  | true =>
    simp only [Bool.not_true, Bool.false_eq_true, if_false, Predicate.settled_eq_ok_iff]
    cases hvisible : Predicate.isVisible env a path with
    | ok visible => simp
    | error fault => simp

/-- Of the resource that a request is about, the attributes in a selection. -/
def selected (ctx : Context) (r : Request) (selection : Resource → List Attribute) :
    List Attribute :=
  match ctx.resource? r with
  | some resource => selection resource
  | none => []

def literals (ctx : Context) (r : Request) : List Attribute :=
  ctx.selected r Resource.literalAttributes

def patterned (ctx : Context) (r : Request) : List Attribute :=
  ctx.selected r Resource.patternAttributes

theorem get?_of_resource? {resource : Resource} (h : ctx.resource? r = some resource) :
    ctx.registry.get? r.resource = some resource := by
  rw [resource?] at h
  split at h
  · cases h
  · exact h

theorem exists_resource_of_mem_selected {selection : Resource → List Attribute} {a : Attribute}
    (h : a ∈ ctx.selected r selection) :
    ∃ resource, ctx.registry.get? r.resource = some resource ∧ a ∈ selection resource := by
  rw [selected] at h
  split at h
  · next resource hresource => exact ⟨resource, get?_of_resource? hresource, h⟩
  · cases h

theorem eq_of_key_eq {attributes : Table String Attribute} (keyed : WellKeyed attributes)
    {a b : Attribute} (ha : a ∈ attributes.values) (hb : b ∈ attributes.values)
    (hkey : a.key = b.key) : a = b := by
  have hfirst := keyed.find?_eq_some_iff.mpr ⟨ha, rfl⟩
  have hsecond := keyed.find?_eq_some_iff.mpr ⟨hb, hkey.symm⟩
  exact Option.some.inj (hfirst.symm.trans hsecond)

section LiteralPaths

variable {attributes : List Attribute}

theorem mem_askedAbout {a : Attribute} {path : String} :
    (a, path) ∈ attributes.flatMap (fun a => (r.freePaths a.key).map fun path => (a, path)) ↔
      a ∈ attributes ∧ path ∈ r.freePaths a.key := by
  simp only [List.mem_flatMap, List.mem_map, Prod.mk.injEq]
  constructor
  · rintro ⟨b, hb, free, hfree, rfl, rfl⟩
    exact ⟨hb, hfree⟩
  · rintro ⟨ha, hpath⟩
    exact ⟨a, ha, path, hpath, rfl, rfl⟩

theorem keysApart_askedAbout
    (apart : ∀ a ∈ attributes, ∀ b ∈ attributes, a.key = b.key → a = b) :
    Judge.KeysApart
      (attributes.flatMap fun a => (r.freePaths a.key).map fun path => (a, path)) :=
  fun _ hp _ hq => apart _ (mem_askedAbout.mp hp).1 _ (mem_askedAbout.mp hq).1

/-- The paths of literal attributes are found exactly if no predicate fails with more than a fault
of its own. -/
theorem exists_literalPaths_iff (checked : ctx.skipVisibility r = false)
    (apart : ∀ a ∈ attributes, ∀ b ∈ attributes, a.key = b.key → a = b) :
    (∃ paths, (ctx.literalPaths r attributes).result = .ok paths) ↔
      ∀ a ∈ attributes, ∀ path ∈ r.freePaths a.key, ∀ fault,
        Predicate.isVisible (.build r.known r.supplied) a path = .error fault →
          fault.isOwn = true := by
  refine (Judge.exists_offeredPaths_iff (fun p _ => Judge.knows_ofState _ _ p.1)
    (keysApart_askedAbout apart)).trans ?_
  constructor
  · intro h a ha path hpath
    exact (exists_isOffered_iff checked).mp (h (a, path) (mem_askedAbout.mpr ⟨ha, hpath⟩))
  · rintro h ⟨a, path⟩ hp
    obtain ⟨ha, hpath⟩ := mem_askedAbout.mp hp
    exact (exists_isOffered_iff checked).mpr (h a ha path hpath)

theorem mem_literalPaths_iff (checked : ctx.skipVisibility r = false)
    (apart : ∀ a ∈ attributes, ∀ b ∈ attributes, a.key = b.key → a = b) {paths : List String}
    (h : (ctx.literalPaths r attributes).result = .ok paths) {path : String} :
    path ∈ paths ↔ ∃ a ∈ attributes, path ∈ r.freePaths a.key ∧
      Predicate.Admits (.build r.known r.supplied) a path := by
  have hown := (exists_literalPaths_iff checked apart).mp ⟨paths, h⟩
  refine (Judge.mem_offeredPaths_iff (fun p _ => Judge.knows_ofState _ _ p.1)
    (keysApart_askedAbout apart) h).trans (exists_congr fun a => ?_)
  rw [mem_askedAbout, and_assoc]
  refine and_congr_right fun ha => and_congr_right fun hpath => ?_
  exact isOffered_eq_true_iff checked (hown a ha path hpath)

end LiteralPaths

end Context
end NextWord
