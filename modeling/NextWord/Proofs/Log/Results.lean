import Mathlib.Data.List.Forall2
import NextWord.Log.Logged

/-!
# Results of logged computations

A computation has a result exactly if its parts have: one after another as a bind, or one for each
element of a list. What was logged on the way decides nothing.
-/

namespace NextWord.Logged

variable {α β : Type}

@[simp] theorem result_pure (a : α) : (pure a : Logged α).result = .ok a := rfl

@[simp] theorem result_ofExcept (e : Except Failure α) : (ofExcept e).result = e := by
  cases e <;> rfl

theorem result_of_ofExcept {e : Except Failure α} {a : α} (h : (ofExcept e).result = .ok a) :
    e = .ok a := by
  rwa [result_ofExcept] at h

theorem result_bind_eq_ok_iff {x : Logged α} {f : α → Logged β} {b : β} :
    (bind x f).result = .ok b ↔ ∃ a, x.result = .ok a ∧ (f a).result = .ok b := by
  cases hx : x.result with
  | ok a => simp [bind_result_of_ok hx]
  | error failure => simp [bind, hx]

theorem result_bind_eq_error_iff {x : Logged α} {f : α → Logged β} {failure : Failure} :
    (bind x f).result = .error failure ↔
      x.result = .error failure ∨ ∃ a, x.result = .ok a ∧ (f a).result = .error failure := by
  cases hx : x.result with
  | ok a => simp [bind_result_of_ok hx]
  | error fault => simp [bind, hx]

theorem result_bind_congr {x y : Logged α} {f g : α → Logged β} (hx : x.result = y.result)
    (hf : ∀ a, x.result = .ok a → (f a).result = (g a).result) :
    (bind x f).result = (bind y g).result := by
  cases h : x.result with
  | ok a => rw [bind_result_of_ok h, bind_result_of_ok (hx.symm.trans h), hf a h]
  | error failure => simp [bind, h, hx.symm.trans h]

theorem exists_of_bind {x : Logged α} {f : α → Logged β} {b : β}
    (h : (bind x f).result = .ok b) : ∃ a, x.result = .ok a ∧ (f a).result = .ok b :=
  result_bind_eq_ok_iff.mp h

theorem result_each_eq_ok_iff {f : α → Logged β} {items : List α} {results : List β} :
    (each f items).result = .ok results ↔
      List.Forall₂ (fun a b => (f a).result = .ok b) items results := by
  induction items generalizing results with
  | nil => cases results <;> simp [each_nil]
  | cons a items ih =>
    rw [each_cons, result_bind_eq_ok_iff]
    constructor
    · rintro ⟨b, hb, h⟩
      obtain ⟨bs, hbs, h⟩ := exists_of_bind h
      obtain rfl := Except.ok.inj h
      exact .cons hb (ih.mp hbs)
    · rintro (_ | ⟨hb, hbs⟩)
      exact ⟨_, hb, result_bind_eq_ok_iff.mpr ⟨_, ih.mpr hbs, rfl⟩⟩

/-- A computation that fails on a list fails on one of its elements. -/
theorem exists_of_each_eq_error {f : α → Logged β} {items : List α} {failure : Failure}
    (h : (each f items).result = .error failure) : ∃ a ∈ items, (f a).result = .error failure := by
  induction items with
  | nil => cases h
  | cons a items ih =>
    rcases result_bind_eq_error_iff.mp h with hfirst | ⟨b, -, h⟩
    · exact ⟨a, List.mem_cons_self, hfirst⟩
    · rcases result_bind_eq_error_iff.mp h with hrest | ⟨bs, -, h⟩
      · obtain ⟨item, hitem, hfailed⟩ := ih hrest
        exact ⟨item, List.mem_cons_of_mem a hitem, hfailed⟩
      · cases h

theorem result_each_congr {f g : α → Logged β} {items : List α}
    (h : ∀ a ∈ items, (f a).result = (g a).result) :
    (each f items).result = (each g items).result := by
  induction items with
  | nil => rfl
  | cons a items ih =>
    obtain ⟨ha, hitems⟩ := List.forall_mem_cons.mp h
    exact result_bind_congr ha fun b _ => result_bind_congr (ih hitems) fun _ _ => rfl

/-- Two computations that differ only where the first has a certain failure have the same result on
a list, unless the first fails so there. -/
theorem result_each_eq_of_ne {f g : α → Logged β} {failure : Failure} {items : List α}
    (h : ∀ a ∈ items, (f a).result ≠ .error failure → (g a).result = (f a).result)
    (hne : (each f items).result ≠ .error failure) :
    (each g items).result = (each f items).result := by
  induction items with
  | nil => rfl
  | cons a items ih =>
    obtain ⟨ha, hitems⟩ := List.forall_mem_cons.mp h
    rw [each_cons, Ne, result_bind_eq_error_iff, not_or] at hne
    obtain ⟨hfirst, hrest⟩ := hne
    refine result_bind_congr (ha hfirst) fun b hb => result_bind_congr (ih hitems ?_) fun _ _ => rfl
    intro hfailed
    have hfound : (f a).result = .ok b := (ha hfirst).symm.trans hb
    exact hrest ⟨b, hfound, result_bind_eq_error_iff.mpr (.inl hfailed)⟩

theorem exists_of_mem_each {f : α → Logged β} {items : List α} {results : List β}
    (h : (each f items).result = .ok results) :
    ∀ b ∈ results, ∃ a ∈ items, (f a).result = .ok b := by
  have hpairs := result_each_eq_ok_iff.mp h
  clear h
  induction hpairs with
  | nil => simp
  | @cons a b items results hb _ ih =>
    intro c hc
    rcases List.mem_cons.mp hc with rfl | hc
    · exact ⟨a, List.mem_cons_self, hb⟩
    · obtain ⟨item, hitem, hfound⟩ := ih c hc
      exact ⟨item, List.mem_cons_of_mem a hitem, hfound⟩

/-- Each element has a partner of a kind exactly if the elements can be paired off with such. -/
theorem exists_forall₂_iff {R : α → β → Prop} {P : β → Prop} {items : List α} :
    (∃ results, List.Forall₂ R items results ∧ ∀ b ∈ results, P b) ↔
      ∀ a ∈ items, ∃ b, R a b ∧ P b := by
  constructor
  · rintro ⟨results, hpairs, hall⟩
    induction hpairs with
    | nil => simp
    | @cons a b items results hb _ ih =>
      obtain ⟨hfirst, hrest⟩ := List.forall_mem_cons.mp hall
      exact List.forall_mem_cons.mpr ⟨⟨b, hb, hfirst⟩, ih hrest⟩
  · intro h
    induction items with
    | nil => exact ⟨[], .nil, by simp⟩
    | cons a items ih =>
      obtain ⟨⟨b, hb, hfirst⟩, hrest⟩ := List.forall_mem_cons.mp h
      obtain ⟨bs, hbs, hall⟩ := ih hrest
      exact ⟨b :: bs, .cons hb hbs, List.forall_mem_cons.mpr ⟨hfirst, hall⟩⟩

/-- A computation on each element has a result if it has one on every element. -/
theorem exists_each_iff {f : α → Logged β} {items : List α} :
    (∃ results, (each f items).result = .ok results) ↔ ∀ a ∈ items, ∃ b, (f a).result = .ok b := by
  have h : (∃ results, List.Forall₂ (fun a b => (f a).result = .ok b) items results ∧
      ∀ b ∈ results, True) ↔ ∀ a ∈ items, ∃ b, (f a).result = .ok b ∧ True :=
    exists_forall₂_iff
  simpa [result_each_eq_ok_iff] using h

end NextWord.Logged
