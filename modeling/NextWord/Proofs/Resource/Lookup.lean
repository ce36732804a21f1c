import NextWord.Proofs.Outcome
import NextWord.Proofs.Path.NextIndices
import NextWord.Proofs.Resource.WellKeyed

/-!
# Finding the attribute that offered a path

A literal attribute whose folded key no other literal one shares is found again under every path
that it offers, whatever patterns there are, unless its key has holes and a written index as well:
such a key is neither the folded path nor the path itself.
-/

namespace NextWord

open NextWord.Path (foldIndices foldIndices_foldIndices resolveHoles)

theorem isPatternKey_foldIndices (key : String) :
    Pattern.isPatternKey (foldIndices key) = Pattern.isPatternKey key := by
  simp [Pattern.isPatternKey, foldIndices, Path.head?_fold, Path.getLast?_fold]

theorem foldIndices_of_mem_resolveHoles {template path : String} {supplied : List String}
    (h : path ∈ resolveHoles template supplied) : foldIndices path = foldIndices template := by
  obtain ⟨text, htext, rfl⟩ := List.mem_map.mp h
  rw [foldIndices, String.toList_ofList, Path.fold_of_mem_resolve htext, foldIndices]

namespace Resource

variable {r : Resource}

theorem mem_literalAttributes {a : Attribute} :
    a ∈ r.literalAttributes ↔ a ∈ r.attributes.values ∧ a.isPattern = false := by
  simp [literalAttributes]

theorem mem_of_firstMatch {path : String} {attributes : List Attribute} {a : Attribute}
    (h : firstMatch path attributes = .ok (some a)) : a ∈ attributes := by
  induction attributes with
  | nil => cases h
  | cons b attributes ih =>
    rw [firstMatch] at h
    split at h
    · cases h
      exact List.mem_cons_self
    · exact List.mem_cons_of_mem b (ih h)
    · cases h

/-- A literal attribute is found under a path exactly if it is stored there. -/
theorem findAttribute_eq_some_iff {path : String} {s : Attribute} (hs : s.isPattern = false) :
    r.findAttribute path = .ok (some s) ↔ r.stored? path = some s := by
  have hnever : firstMatch path r.patternAttributes ≠ .ok (some s) := by
    intro hmatch
    have hmem := mem_of_firstMatch hmatch
    simp [patternAttributes, hs] at hmem
  rw [findAttribute]
  split
  · next a hstored =>
    split
    · next ha =>
      refine ⟨fun h => absurd h hnever, fun h => ?_⟩
      rw [Option.some.inj (hstored.symm.trans h), hs] at ha
      cases ha
    · rw [hstored]
      simp
  · next hnone => simp [hnone, hnever]

/-- What is stored under one of two keys. -/
theorem stored?_eq_some_iff {path : String} {s : Attribute} :
    r.stored? path = some s ↔ r.attributes.find? (foldIndices path) = some s ∨
      (r.attributes.find? (foldIndices path) = none ∧ r.attributes.find? path = some s) := by
  rw [stored?]
  cases r.attributes.find? (foldIndices path) <;> simp

/-- Under the paths that it offers, a literal attribute that shares its folded key with no other is
found exactly if its key has no written index or no hole. -/
theorem findAttribute_eq_some_iff_of_mem_resolveHoles (r : Resource)
    (keyed : WellKeyed r.attributes) (s : Attribute) (hs : s ∈ r.literalAttributes)
    (alone : ∀ t ∈ r.literalAttributes, t ≠ s → foldIndices t.key ≠ foldIndices s.key)
    (supplied : List String) : ∀ p ∈ resolveHoles s.key supplied,
      (r.findAttribute p = .ok (some s) ↔
        foldIndices s.key = s.key ∨ (Path.Template.ofText s.key.toList).holeCount = 0) := by
  intro p hp
  obtain ⟨hmem, hliteral⟩ := mem_literalAttributes.mp hs
  have hfold : foldIndices p = foldIndices s.key := foldIndices_of_mem_resolveHoles hp
  obtain ⟨text, htext, rfl⟩ := List.mem_map.mp hp
  rw [findAttribute_eq_some_iff hliteral, stored?_eq_some_iff, hfold]
  constructor
  · rintro (hfound | ⟨-, hfound⟩)
    · exact .inl (keyed.find?_eq_some_iff.mp hfound).2.symm
    · have hkey := (keyed.find?_eq_some_iff.mp hfound).2
      rcases Path.Template.mem_resolve htext with ⟨hnone, -⟩ | ⟨indices, hlength, -, hfill⟩
      · exact .inr hnone
      · refine .inr (Path.Template.holeCount_eq_zero_of_fill_eq hlength ?_)
        rw [← hfill, hkey, String.toList_ofList]
  · rintro (hfolded | hnone)
    · rw [hfolded]
      exact .inl (keyed.find?_eq_some_iff.mpr ⟨hmem, rfl⟩)
    · obtain rfl : text = s.key.toList := by
        rcases Path.Template.mem_resolve htext with ⟨-, hsame⟩ | ⟨-, -, hholes, -⟩
        · exact hsame
        · exact absurd hnone hholes
      rw [String.ofList_toList]
      cases hfound : r.attributes.find? (foldIndices s.key) with
      | none => exact .inr ⟨rfl, keyed.find?_eq_some_iff.mpr ⟨hmem, rfl⟩⟩
      | some t =>
        -- What stands under the folded key is literal and folds to the same key.
        obtain ⟨htmem, htkey⟩ := keyed.find?_eq_some_iff.mp hfound
        have htfold : foldIndices t.key = foldIndices s.key := by
          rw [htkey, foldIndices_foldIndices]
        have htliteral : t ∈ r.literalAttributes := by
          refine mem_literalAttributes.mpr ⟨htmem, ?_⟩
          rw [Attribute.isPattern, htkey, isPatternKey_foldIndices]
          exact hliteral
        by_cases ht : t = s
        · exact .inl (by rw [ht])
        · exact absurd htfold (alone t htliteral ht)

/-- A resource with a key of a hole and a written index, and one with holes only. -/
def crates : Resource :=
  { name := "crates"
    attributes := [("shelf[0].slots[n]", { key := "shelf[0].slots[n]" }),
      ("labels[n].text", { key := "labels[n].text" })] }

theorem crates_wellKeyed : WellKeyed crates.attributes :=
  ⟨by decide, by decide⟩

theorem findAttribute_eq_some_iff_of_mem_resolveHoles_labels :
    crates.findAttribute "labels[3].text" = .ok (some { key := "labels[n].text" }) := by
  have hmem : { key := "labels[n].text" } ∈ crates.literalAttributes := by decide +kernel
  have alone : ∀ t ∈ crates.literalAttributes, t ≠ { key := "labels[n].text" } →
      foldIndices t.key ≠ foldIndices "labels[n].text" := by
    decide +kernel
  have hoffered : "labels[3].text" ∈ resolveHoles "labels[n].text" ["labels[2].text"] := by
    decide +kernel
  have hfolded : foldIndices "labels[n].text" = "labels[n].text" := by decide +kernel
  exact (findAttribute_eq_some_iff_of_mem_resolveHoles crates crates_wellKeyed _ hmem alone
    ["labels[2].text"] _ hoffered).mpr (.inl hfolded)

/-- A key with a hole behind a written index offers a path under which nothing is found. -/
theorem exists_offered_path_not_found :
    { key := "shelf[0].slots[n]" } ∈ crates.literalAttributes ∧
      (∀ t ∈ crates.literalAttributes, t ≠ { key := "shelf[0].slots[n]" } →
        foldIndices t.key ≠ foldIndices "shelf[0].slots[n]") ∧
      "shelf[0].slots[0]" ∈ resolveHoles "shelf[0].slots[n]" [] ∧
      crates.findAttribute "shelf[0].slots[0]" = .ok none := by
  refine ⟨by decide +kernel, by decide +kernel, by decide +kernel, ?_⟩
  exact eq_ok_of_toOption_eq_some (by decide +kernel)

end Resource
end NextWord
