import Mathlib.Data.List.Basic
import NextWord.Completion.Answer
import NextWord.Proofs.Value.Sameness

/-!
# First occurrences

Of equal candidates the first is kept. Dropping repetitions from parts of a list before they are
put together changes nothing in the end, since being the same is transitive among the values that
can be candidates at all.
-/

namespace NextWord.Answer

theorem distinct_append (vs ws : List Value) :
    distinct (vs ++ ws) =
      distinct vs ++ (distinct ws).filter fun w => vs.all fun v => !v.same w := by
  induction vs with
  | nil => simp [distinct]
  | cons v vs ih =>
    rw [List.cons_append, distinct, distinct, ih, List.filter_append, List.filter_filter,
      List.cons_append]
    simp only [List.all_cons]

/-- A candidate is kept exactly if it comes first somewhere: none before it is the same. -/
theorem mem_distinct_iff {v : Value} {vs : List Value} : v ∈ distinct vs ↔
    ∃ before after, vs = before ++ v :: after ∧ ∀ u ∈ before, u.same v = false := by
  induction vs with
  | nil => simp [distinct]
  | cons w vs ih =>
    rw [distinct, List.mem_cons, List.mem_filter, ih]
    constructor
    · rintro (rfl | ⟨⟨before, after, rfl, hbefore⟩, hfirst⟩)
      · exact ⟨[], vs, rfl, by simp⟩
      · exact ⟨w :: before, after, rfl, List.forall_mem_cons.mpr ⟨by simpa using hfirst, hbefore⟩⟩
    · rintro ⟨_ | ⟨first, before⟩, after, hsplit, hbefore⟩
      · exact .inl (List.cons.inj hsplit).1.symm
      · obtain ⟨rfl, rfl⟩ := List.cons.inj hsplit
        obtain ⟨hfirst, hbefore⟩ := List.forall_mem_cons.mp hbefore
        exact .inr ⟨⟨before, after, rfl, hbefore⟩, by simp [hfirst]⟩

theorem mem_of_mem_distinct {v : Value} {vs : List Value} (h : v ∈ distinct vs) : v ∈ vs := by
  obtain ⟨before, after, rfl, -⟩ := mem_distinct_iff.mp h
  exact List.mem_append_right before List.mem_cons_self

theorem pairwise_distinct (vs : List Value) :
    (distinct vs).Pairwise fun v w => v.same w = false := by
  induction vs with
  | nil => exact .nil
  | cons v vs ih =>
    refine .cons (fun w hw => ?_) (ih.filter _)
    simpa using (List.mem_filter.mp hw).2

theorem distinct_eq_self {vs : List Value} (h : vs.Pairwise fun v w => v.same w = false) :
    distinct vs = vs := by
  induction h with
  | nil => rfl
  | @cons v vs hv _ ih =>
    rw [distinct, ih, List.filter_eq_self.mpr]
    intro w hw
    simp [hv w hw]

theorem distinct_distinct (vs : List Value) : distinct (distinct vs) = distinct vs :=
  distinct_eq_self (pairwise_distinct vs)

/-- What a candidate is the same as, some first occurrence is the same as. -/
theorem exists_mem_distinct_same {vs : List Value} (h : ∀ v ∈ vs, v.isHashable = true)
    {v w : Value} (hv : v ∈ vs) (hsame : v.same w = true) : ∃ u ∈ distinct vs, u.same w = true := by
  induction vs with
  | nil => cases hv
  | cons first vs ih =>
    obtain ⟨hfirst, hvs⟩ := List.forall_mem_cons.mp h
    rcases List.mem_cons.mp hv with rfl | hv
    · exact ⟨v, List.mem_cons_self, hsame⟩
    · obtain ⟨u, hu, huw⟩ := ih hvs hv
      cases hdropped : first.same u with
      | true =>
        have hu' := hvs u (mem_of_mem_distinct hu)
        exact ⟨first, List.mem_cons_self, Value.same_trans hfirst hu' hdropped huw⟩
      | false =>
        have hkept : u ∈ (distinct vs).filter fun w => !first.same w :=
          List.mem_filter.mpr ⟨hu, by simp [hdropped]⟩
        exact ⟨u, List.mem_cons_of_mem first hkept, huw⟩

/-- The first of equal candidates is kept: no two that are kept are the same, whatever is the same as
a candidate is the same as one that is kept, those are kept that come first, and what is kept of a
list stands in front of what is kept of the list with more behind it. -/
theorem distinct_keeps_first {vs : List Value} (h : ∀ v ∈ vs, v.isHashable = true) :
    ((distinct vs).Pairwise fun v w => v.same w = false) ∧
    (∀ w, (∃ v ∈ distinct vs, v.same w = true) ↔ ∃ v ∈ vs, v.same w = true) ∧
    (∀ v, v ∈ distinct vs ↔
      ∃ before after, vs = before ++ v :: after ∧ ∀ u ∈ before, u.same v = false) ∧
    ∀ before after, vs = before ++ after → distinct before <+: distinct vs := by
  refine ⟨pairwise_distinct vs, fun w => ⟨?_, ?_⟩, fun v => mem_distinct_iff, ?_⟩
  · rintro ⟨v, hv, hsame⟩
    exact ⟨v, mem_of_mem_distinct hv, hsame⟩
  · rintro ⟨v, hv, hsame⟩
    exact exists_mem_distinct_same h hv hsame
  · rintro before after rfl
    exact ⟨_, (distinct_append before after).symm⟩

theorem all_distinct {vs : List Value} (h : ∀ v ∈ vs, v.isHashable = true) (w : Value) :
    ((distinct vs).all fun v => !v.same w) = vs.all fun v => !v.same w := by
  rw [Bool.eq_iff_iff, List.all_eq_true, List.all_eq_true]
  constructor
  · intro hnone v hv
    by_contra hsame
    obtain ⟨u, hu, huw⟩ := exists_mem_distinct_same h hv (by simpa using hsame)
    exact absurd (hnone u hu) (by simp [huw])
  · exact fun hnone v hv => hnone v (mem_of_mem_distinct hv)

theorem distinct_append_distinct {vs : List Value} (h : ∀ v ∈ vs, v.isHashable = true)
    (ws : List Value) : distinct (distinct vs ++ distinct ws) = distinct (vs ++ ws) := by
  simp only [distinct_append, distinct_distinct, all_distinct h]

/-- Repetitions may be dropped part by part and then among what is left. -/
theorem distinct_flatMap_distinct {α : Type} {items : List α} {f : α → List Value}
    (h : ∀ a ∈ items, ∀ v ∈ f a, v.isHashable = true) :
    distinct (items.flatMap fun a => distinct (f a)) = distinct (items.flatMap f) := by
  induction items with
  | nil => rfl
  | cons a items ih =>
    obtain ⟨ha, hitems⟩ := List.forall_mem_cons.mp h
    have hfirst : ∀ v ∈ distinct (f a), v.isHashable = true :=
      fun v hv => ha v (mem_of_mem_distinct hv)
    rw [List.flatMap_cons, List.flatMap_cons, ← distinct_append_distinct hfirst, ih hitems,
      distinct_distinct, distinct_append_distinct ha]

end NextWord.Answer
