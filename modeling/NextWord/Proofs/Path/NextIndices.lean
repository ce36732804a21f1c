import Mathlib.Data.List.Induction
import NextWord.Proofs.Path.Instances

/-!
# The next indices of a template

The highest indices that a template finds among supplied paths are bounds for every path that counts
as an instance, and each of them but -1 stands in one of these paths. Both together settle them, so
neither order nor repetition of the paths matters; and an offered path, which goes beyond the bound
at one hole, is not among the paths supplied. Paths that do not count change nothing. Whatever the
highest indices are, what is offered is an instance and folds like the template.
-/

namespace NextWord.Path

open Text (isDigit readNat writeNat)

namespace Template

variable {t : Template} {supplied others : List (List Char)} {seen : List Int}

/-- Whether a list holds the highest index at each hole among the paths that count as instances, and
-1 where there is none. -/
structure IsHighest (t : Template) (supplied : List (List Char)) (seen : List Int) : Prop where
  length_eq : seen.length = t.holeCount
  le : ∀ path ∈ supplied, ∀ indices, t.indicesOf? path = some indices →
    ∀ (p n : Nat) (m : Int), indices[p]? = some n → seen[p]? = some m → (n : Int) ≤ m
  attained : ∀ (p : Nat) (m : Int), seen[p]? = some m → m = -1 ∨
    ∃ path ∈ supplied, ∃ indices, t.indicesOf? path = some indices ∧
      ∃ n : Nat, indices[p]? = some n ∧ (n : Int) = m

theorem isHighest_nil (t : Template) : t.IsHighest [] (List.replicate t.holeCount (-1)) := by
  refine ⟨List.length_replicate, ?_, ?_⟩
  · intro path hpath
    exact absurd hpath List.not_mem_nil
  · intro p h hp
    exact .inl (List.eq_of_mem_replicate (List.mem_of_getElem? hp))

/-- One more path raises what was the highest before to what is the highest now. -/
theorem IsHighest.raise (h : t.IsHighest supplied seen) (path : List Char) :
    t.IsHighest (supplied ++ [path]) (t.raise seen path) := by
  cases hcounts : t.indicesOf? path with
  | none =>
    rw [Template.raise, hcounts]
    refine ⟨h.length_eq, ?_, ?_⟩
    · intro other hother indices hindices
      rcases List.mem_append.mp hother with hother | hother
      · exact h.le other hother indices hindices
      · rw [List.mem_singleton.mp hother, hcounts] at hindices
        cases hindices
    · intro p m hm
      rcases h.attained p m hm with hnone | ⟨other, hother, hfound⟩
      · exact .inl hnone
      · exact .inr ⟨other, List.mem_append_left _ hother, hfound⟩
  | some own =>
    rw [Template.raise, hcounts]
    refine ⟨?_, ?_, ?_⟩
    · simp [h.length_eq, length_of_indicesOf? hcounts]
    · intro other hother indices hindices p n m hn hm
      obtain ⟨before, mine, hbefore, hmine, rfl⟩ := List.getElem?_zipWith_eq_some.mp hm
      rcases List.mem_append.mp hother with hother | hother
      · have hle := h.le other hother indices hindices p n before hn hbefore
        omega
      · rw [List.mem_singleton.mp hother, hcounts] at hindices
        obtain rfl := Option.some.inj hindices
        obtain rfl := Option.some.inj (hn.symm.trans hmine)
        omega
    · intro p m hm
      obtain ⟨before, mine, hbefore, hmine, rfl⟩ := List.getElem?_zipWith_eq_some.mp hm
      by_cases hle : before ≤ mine
      · exact .inr ⟨path, by simp, own, hcounts, mine, hmine, (Int.max_eq_right hle).symm⟩
      · rw [Int.max_eq_left (by omega)]
        rcases h.attained p before hbefore with hnone | ⟨other, hother, hfound⟩
        · exact .inl hnone
        · exact .inr ⟨other, List.mem_append_left _ hother, hfound⟩

theorem isHighest_highest (t : Template) (supplied : List (List Char)) :
    t.IsHighest supplied (t.highest supplied) := by
  induction supplied using List.reverseRecOn with
  | nil => exact isHighest_nil t
  | append_singleton supplied path ih =>
    have hraise : t.highest (supplied ++ [path]) = t.raise (t.highest supplied) path := by
      rw [Template.highest, Template.highest, List.foldl_append]
      rfl
    rw [hraise]
    exact ih.raise path

namespace IsHighest

theorem neg_one_le (h : t.IsHighest supplied seen) {p : Nat} {m : Int}
    (hm : seen[p]? = some m) : -1 ≤ m := by
  rcases h.attained p m hm with rfl | ⟨-, -, -, -, n, -, rfl⟩
  · exact Int.le_refl _
  · omega

/-- The more paths, the higher the indices. -/
theorem mono (h : t.IsHighest supplied seen) {more : List Int}
    (h' : t.IsHighest others more) (hsub : ∀ path ∈ supplied, path ∈ others) {p : Nat} {m m' : Int}
    (hm : seen[p]? = some m) (hm' : more[p]? = some m') : m ≤ m' := by
  rcases h.attained p m hm with rfl | ⟨path, hpath, indices, hcounts, n, hn, rfl⟩
  · exact h'.neg_one_le hm'
  · exact h'.le path (hsub path hpath) indices hcounts p n m' hn hm'

/-- The highest indices depend on which paths there are, not on their order or repetition. -/
theorem eq_of_mem_iff (h : t.IsHighest supplied seen) {seen' : List Int}
    (h' : t.IsHighest others seen') (hsame : ∀ path, path ∈ supplied ↔ path ∈ others) :
    seen = seen' := by
  apply List.ext_getElem (h.length_eq.trans h'.length_eq.symm)
  intro p hp hp'
  have hm := List.getElem?_eq_getElem hp
  have hm' := List.getElem?_eq_getElem hp'
  apply Int.le_antisymm
  · exact h.mono h' (fun path hpath => (hsame path).mp hpath) hm hm'
  · exact h'.mono h (fun path hpath => (hsame path).mpr hpath) hm' hm

/-- The indices offered for a hole: one more than the highest there, and the highest elsewhere,
nought where there is none. -/
theorem map_offered (h : t.IsHighest supplied seen) (moved : Nat) :
    (offered seen moved).map Int.ofNat =
      seen.mapIdx fun p m => if p = moved then m + 1 else max m 0 := by
  apply List.ext_getElem?
  intro p
  rw [offered, List.getElem?_map, List.getElem?_mapIdx, List.getElem?_mapIdx]
  cases hm : seen[p]? with
  | none => rfl
  | some m =>
    have hbound := h.neg_one_le hm
    simp only [Option.map_some, Option.some.injEq, Int.ofNat_eq_natCast]
    split
    · omega
    · omega

/-- What moves on at a hole goes beyond every path that counts. -/
theorem fill_offered_not_mem (h : t.IsHighest supplied seen) {moved : Nat}
    (hmoved : moved < t.holeCount) : t.fill (offered seen moved) ∉ supplied := by
  intro hmem
  have hlength : (offered seen moved).length = t.holeCount := by
    rw [offered, List.length_mapIdx, h.length_eq]
  have hcounts : t.indicesOf? (t.fill (offered seen moved)) = some (offered seen moved) :=
    indicesOf?_eq_some_iff.mpr ⟨_, fits_map_writeNat hlength, (map_readNat_map_writeNat _).symm,
      .inl (fill_eq_write t _)⟩
  have hlt : moved < seen.length := by rwa [h.length_eq]
  have hm : seen[moved]? = some seen[moved] := List.getElem?_eq_getElem hlt
  have hn : (offered seen moved)[moved]? = some (seen[moved] + 1).toNat := by
    rw [offered, List.getElem?_mapIdx, hm, Option.map_some, if_pos rfl]
  have hle := h.le _ hmem _ hcounts moved _ _ hn hm
  omega

end IsHighest

theorem resolve_of_holes (h : t.holeCount ≠ 0) (supplied : List (List Char)) :
    t.resolve supplied =
      (List.range t.holeCount).map fun moved => t.fill (offered (t.highest supplied) moved) := by
  rw [resolve, if_neg h]

theorem resolve_congr (h : t.highest supplied = t.highest others) :
    t.resolve supplied = t.resolve others := by
  rw [resolve, resolve, h]

/-- A template without holes resolves to itself, another one to instances. -/
theorem mem_resolve {text path : List Char} {supplied : List (List Char)}
    (h : path ∈ (ofText text).resolve supplied) :
    ((ofText text).holeCount = 0 ∧ path = text) ∨
      ∃ indices, indices.length = (ofText text).holeCount ∧ (ofText text).holeCount ≠ 0 ∧
        path = (ofText text).fill indices := by
  rw [resolve] at h
  split at h
  · next hnone =>
    exact .inl ⟨hnone, (List.mem_singleton.mp h).trans (head_of_holeCount_eq_zero hnone)⟩
  · next hsome =>
    obtain ⟨moved, -, rfl⟩ := List.mem_map.mp h
    exact .inr ⟨_, by simp [offered, (isHighest_highest _ supplied).length_eq], hsome, rfl⟩

/-- A path that does not count can be left out. -/
theorem highest_insert_of_not_counted {path : List Char} (h : t.indicesOf? path = none)
    (before after : List (List Char)) :
    t.highest (before ++ path :: after) = t.highest (before ++ after) := by
  have hraise : ∀ seen, t.raise seen path = seen := by
    intro seen
    rw [raise, h]
  rw [highest, highest, List.foldl_append, List.foldl_append, List.foldl_cons, hraise]

/-- A path can give way to one that counts alike. -/
theorem highest_replace {path other : List Char} (h : t.indicesOf? path = t.indicesOf? other)
    (before after : List (List Char)) :
    t.highest (before ++ path :: after) = t.highest (before ++ other :: after) := by
  have hraise : ∀ seen, t.raise seen path = t.raise seen other := by
    intro seen
    rw [raise, raise, h]
  rw [highest, highest, List.foldl_append, List.foldl_append, List.foldl_cons, List.foldl_cons,
    hraise]

end Template

/-- The paths that a template resolves to fold to what the template folds to. -/
theorem fold_of_mem_resolve {text path : List Char} {supplied : List (List Char)}
    (h : path ∈ (Template.ofText text).resolve supplied) : fold path = fold text := by
  rcases Template.mem_resolve h with ⟨-, rfl⟩ | ⟨indices, hlength, -, rfl⟩
  · rfl
  · exact Template.fold_fill text indices hlength

section Supplied

open Template

variable {template : String} {supplied : List String}

theorem mem_map_toList {line : List Char} :
    line ∈ supplied.map String.toList ↔ String.ofList line ∈ supplied := by
  constructor
  · intro h
    obtain ⟨path, hpath, rfl⟩ := List.mem_map.mp h
    rwa [String.ofList_toList]
  · intro h
    rw [List.mem_map]
    exact ⟨String.ofList line, h, String.toList_ofList⟩

theorem resolveHoles_eq_of_mem_iff {others : List String}
    (h : ∀ path, path ∈ supplied ↔ path ∈ others) :
    resolveHoles template supplied = resolveHoles template others := by
  have hsame : ∀ line, line ∈ supplied.map String.toList ↔ line ∈ others.map String.toList := by
    intro line
    rw [mem_map_toList, mem_map_toList, h]
  rw [resolveHoles, resolveHoles,
    resolve_congr ((isHighest_highest _ _).eq_of_mem_iff (isHighest_highest _ _) hsame)]

theorem not_mem_of_mem_resolveHoles (hholes : (ofText template.toList).holeCount ≠ 0)
    {path : String} (h : path ∈ resolveHoles template supplied) : path ∉ supplied := by
  rw [resolveHoles, resolve_of_holes hholes] at h
  obtain ⟨line, hline, rfl⟩ := List.mem_map.mp h
  obtain ⟨moved, hmoved, rfl⟩ := List.mem_map.mp hline
  intro hmem
  have hfresh := (isHighest_highest _ (supplied.map String.toList)).fill_offered_not_mem
    (List.mem_range.mp hmoved)
  exact hfresh (mem_map_toList.mpr hmem)

/-- A template with holes resolves to one path for each hole, where that hole moves one step past
the highest index seen there and every other hole stays at the highest, or at nought. The highest
index bounds every supplied instance and is attained, by an instance or by one with a line break
behind it. No path is offered that was supplied, and only which paths were supplied matters. -/
theorem resolveHoles_moves_each_hole (template : String) (supplied : List String)
    (hholes : (ofText template.toList).holeCount ≠ 0) :
    let t := ofText template.toList
    let highest := t.highest (supplied.map String.toList)
    (resolveHoles template supplied).length = t.holeCount ∧
      (∀ j < t.holeCount, ∃ indices : List Nat,
        indices.map Int.ofNat = highest.mapIdx (fun p m => if p = j then m + 1 else max m 0) ∧
        (resolveHoles template supplied)[j]? =
          some (String.ofList (t.write (indices.map writeNat)))) ∧
      (∀ path ∈ supplied, ∀ p n, t.HasIndex path.toList p n →
        ∃ m, highest[p]? = some m ∧ (n : Int) ≤ m) ∧
      (highest.length = t.holeCount ∧ ∀ m p, highest[p]? = some m → m = -1 ∨
        ∃ n : Nat, (n : Int) = m ∧ ∃ path ∈ supplied, t.HasIndex path.toList p n ∨
          ∃ line, path.toList = line ++ ['\n'] ∧ t.HasIndex line p n) ∧
      (∀ path ∈ resolveHoles template supplied, path ∉ supplied) ∧
      ∀ others, (∀ path, path ∈ supplied ↔ path ∈ others) →
        resolveHoles template supplied = resolveHoles template others := by
  intro t highest
  have hhighest : t.IsHighest (supplied.map String.toList) highest := isHighest_highest _ _
  refine ⟨?_, ?_, ?_, ⟨hhighest.length_eq, ?_⟩, ?_, ?_⟩
  · rw [resolveHoles, resolve_of_holes hholes, List.length_map, List.length_map, List.length_range]
  · intro j hj
    refine ⟨offered highest j, hhighest.map_offered j, ?_⟩
    rw [resolveHoles, resolve_of_holes hholes, List.getElem?_map, List.getElem?_map,
      List.getElem?_range hj, ← fill_eq_write]
    rfl
  · intro path hpath p n hindex
    obtain ⟨indices, hcounts, hn⟩ := exists_indicesOf?_iff.mpr (.inl hindex)
    have hp : p < highest.length := by
      rw [hhighest.length_eq, ← length_of_indicesOf? hcounts]
      exact (List.getElem?_eq_some_iff.mp hn).1
    have hm := List.getElem?_eq_getElem hp
    exact ⟨_, hm, hhighest.le _ (List.mem_map_of_mem hpath) indices hcounts p n _ hn hm⟩
  · intro m p hm
    rcases hhighest.attained p m hm with hnone | ⟨line, hline, indices, hcounts, n, hn, heq⟩
    · exact .inl hnone
    · obtain ⟨path, hpath, rfl⟩ := List.mem_map.mp hline
      exact .inr ⟨n, heq, path, hpath, exists_indicesOf?_iff.mp ⟨indices, hcounts, hn⟩⟩
  · exact fun path => not_mem_of_mem_resolveHoles hholes
  · exact fun others => resolveHoles_eq_of_mem_iff

theorem resolveHoles_moves_each_hole_shelves :
    let supplied := ["shelf[1].slots[04]", "shelf[3].slots[0]\n", "shelf[9].label"]
    (ofText "shelf[n].slots[n]".toList).holeCount ≠ 0 ∧
      resolveHoles "shelf[n].slots[n]" supplied = ["shelf[4].slots[4]", "shelf[3].slots[5]"] ∧
      (∀ path ∈ resolveHoles "shelf[n].slots[n]" supplied, path ∉ supplied) ∧
      resolveHoles "shelf[n].slots[n]" supplied =
        resolveHoles "shelf[n].slots[n]" (supplied.reverse ++ supplied) := by
  intro supplied
  have hholes : (ofText "shelf[n].slots[n]".toList).holeCount ≠ 0 := by decide +kernel
  obtain ⟨-, -, -, -, hfresh, hsame⟩ :=
    resolveHoles_moves_each_hole "shelf[n].slots[n]" supplied hholes
  refine ⟨hholes, by decide +kernel, hfresh, hsame _ ?_⟩
  intro path
  simp [or_self]

/-- Beside a template only its instances count, and those with a line break behind them, which count
like the instance itself. -/
theorem resolveHoles_insert (template : String) (before after : List String) (x : String) :
    (¬ (ofText template.toList).IsInstance x.toList →
      (∀ line, x.toList = line ++ ['\n'] → ¬ (ofText template.toList).IsInstance line) →
      resolveHoles template (before ++ x :: after) = resolveHoles template (before ++ after)) ∧
    ∀ line, (ofText template.toList).IsInstance line → x.toList = line ++ ['\n'] →
      resolveHoles template (before ++ x :: after) =
        resolveHoles template (before ++ String.ofList line :: after) := by
  constructor
  · intro hpath hline
    have hskipped := highest_insert_of_not_counted (indicesOf?_eq_none_iff.mpr ⟨hpath, hline⟩)
      (before.map String.toList) (after.map String.toList)
    rw [resolveHoles, resolveHoles, List.map_append, List.map_append, List.map_cons,
      resolve_congr hskipped]
  · intro line hline hx
    have halike := highest_replace (indicesOf?_line hline) (before.map String.toList)
      (after.map String.toList)
    rw [resolveHoles, resolveHoles, List.map_append, List.map_append, List.map_cons, List.map_cons,
      hx, String.toList_ofList, resolve_congr halike]

theorem resolveHoles_insert_boxes :
    ¬ (ofText "boxes[n].size".toList).IsInstance "boxes[7].weight".toList ∧
      (∀ line, "boxes[7].weight".toList = line ++ ['\n'] →
        ¬ (ofText "boxes[n].size".toList).IsInstance line) ∧
      resolveHoles "boxes[n].size" ["boxes[2].size", "boxes[7].weight"] =
        resolveHoles "boxes[n].size" ["boxes[2].size"] := by
  have hcounts : (ofText "boxes[n].size".toList).indicesOf? "boxes[7].weight".toList = none := by
    decide +kernel
  obtain ⟨hpath, hline⟩ := indicesOf?_eq_none_iff.mp hcounts
  exact ⟨hpath, hline,
    (resolveHoles_insert "boxes[n].size" ["boxes[2].size"] [] "boxes[7].weight").1 hpath hline⟩

/-- An instance with a line break behind it is no instance, and yet it counts. -/
theorem not_forall_resolveHoles_insert :
    ¬ ∀ (template : String) (before after : List String) (x : String),
      (ofText template.toList).holeCount ≠ 0 → ¬ (ofText template.toList).IsInstance x.toList →
      resolveHoles template (before ++ x :: after) = resolveHoles template (before ++ after) := by
  intro h
  have hread : (ofText "items[n]".toList).read? "items[5]\n".toList = some ([5], ['\n']) := by
    decide +kernel
  have hpath : ¬ (ofText "items[n]".toList).IsInstance "items[5]\n".toList := by
    intro hinstance
    obtain ⟨indices, hwhole⟩ := isInstance_iff_read?.mp hinstance
    rw [hread] at hwhole
    cases hwhole
  have hsame := h "items[n]" [] [] "items[5]\n" (by decide +kernel) hpath
  have hdifferent : resolveHoles "items[n]" ["items[5]\n"] ≠ resolveHoles "items[n]" [] := by
    decide +kernel
  exact hdifferent hsame

end Supplied
end NextWord.Path
