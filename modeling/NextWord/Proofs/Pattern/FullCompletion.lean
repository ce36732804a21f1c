import NextWord.Proofs.Outcome
import NextWord.Proofs.Pattern.Completions

/-!
# When a supplied path completes in full

A path that a pattern matches is not always among the completions: each prefix of the pattern takes
what it takes of the path by itself, and where a class also matches the literal behind it, what is
remembered for the class already contains that literal. The path does complete in full where the
prefixes cut it evenly, each of them taking beyond the one before it the very text that its segment
offers.
-/

namespace NextWord

/-- What follows a match in full: nothing may be left of the text. -/
def Regex.atEnd : Regex.Next := fun s t => if s.rest = [] then Regex.done s t else .failed t

def Regex.Expression.fits (e : Regex.Expression) (text : List Char) : Bool :=
  if text.length < e.least then false
  else match Regex.run e.body {} ⟨[], text⟩ ⟨[], ⟨[], text⟩⟩ Regex.atEnd with
    | .found _ => true
    | .failed _ => false

def Pattern.fits (pattern text : List Char) : Bool :=
  match Regex.ofText? pattern with
  | some e => e.fits text
  | none => false

/-- The segments behind a prefix cut a path evenly, `taken` being what the prefix took of it: each
goes on by what it offers, a fixed one by its literal and a variable one by some text, until the
whole path is taken at the dollar. -/
inductive CutEvenly (path : List Char) : List Char → List Char → List Segment → Prop
  | finish {before : List Char} : CutEvenly path before path [.dollar]
  | fixed {before taken : List Char} {s : Segment} {more : List Segment}
      (isFixed : s.isVariable = false) (not_dollar : s.kind ≠ .dollar)
      (takes : PatternNode.prefixMatch? (before ++ s.source) path = some (taken ++ s.literal))
      (rest : CutEvenly path (before ++ s.source) (taken ++ s.literal) more) :
      CutEvenly path before taken (s :: more)
  | varying {before taken value : List Char} {s : Segment} {more : List Segment}
      (isVariable : s.isVariable) (nonempty : value ≠ [])
      (takes : PatternNode.prefixMatch? (before ++ s.source) path = some (taken ++ value))
      (rest : CutEvenly path (before ++ s.source) (taken ++ value) more) :
      CutEvenly path before taken (s :: more)

open PatternNode (prefixMatch? walkStops bare)

/-- A visit goes on with the path to the nodes below. -/
theorem Visit.mem_goOn {visits : List Visit} {source path taken : List Char} {length : Nat}
    (h : ⟨path, length⟩ ∈ visits) (takes : prefixMatch? source path = some taken) :
    ⟨path, taken.length⟩ ∈ visits.filterMap (Visit.goOn? source) :=
  List.mem_filterMap.mpr ⟨_, h, by simp [Visit.goOn?, takes]⟩

theorem Visit.mem_slices {visits : List Visit} {source path taken value : List Char}
    (h : ⟨path, taken.length⟩ ∈ visits) (takes : prefixMatch? source path = some (taken ++ value)) :
    value ∈ visits.filterMap (Visit.slice? source) :=
  List.mem_filterMap.mpr ⟨_, h, by simp [Visit.slice?, takes]⟩

/-- Segments that cut a visiting path evenly offer the rest of it, whichever paths come along. -/
theorem CutEvenly.offers {path before taken : List Char} {segments : List Segment}
    (h : CutEvenly path before taken segments) {visits : List Visit}
    (visit : ⟨path, taken.length⟩ ∈ visits) :
    ∃ text, path = taken ++ text ∧ Offers (walkStops visits before (bare segments)) text := by
  induction h generalizing visits with
  | finish => exact ⟨[], by simp, .finish⟩
  | fixed isFixed not_dollar takes rest ih =>
    obtain ⟨text, hpath, hoffers⟩ := ih (Visit.mem_goOn visit takes)
    exact ⟨_, by rw [hpath, List.append_assoc], .fixed isFixed not_dollar hoffers⟩
  | @varying before taken value s more isVariable nonempty takes rest ih =>
    obtain ⟨text, hpath, hoffers⟩ := ih (Visit.mem_goOn visit takes)
    have hknown : value ∈
        (visits.filterMap (Visit.slice? (before ++ s.source))).foldl PatternNode.remember [] :=
      PatternNode.mem_foldl_remember.mpr (.inr (Visit.mem_slices visit takes))
    exact ⟨_, by rw [hpath, List.append_assoc], .known isVariable hknown nonempty hoffers⟩

namespace PatternTree

/-- Accepted patterns can always be put into one tree. After any paths have walked it, it offers
exactly the texts that the route of a pattern offers, and among them every path that a pattern cuts
evenly. -/
theorem completes_in_full_of_cutEvenly (patterns : List (List Char))
    (accepted : ∀ pattern ∈ patterns, ∃ segments, Pattern.parse pattern = .ok segments) :
    ∃ tree, empty.addAll patterns = .ok tree ∧ ∀ paths : List (List Char),
      (∀ text, text ∈ (tree.observeAll paths).completions ↔
        ∃ pattern ∈ patterns, ∃ segments, Pattern.parse pattern = .ok segments ∧
          Offers (walkStops (Visit.ofPaths paths) [] (bare segments)) text) ∧
      ∀ path ∈ paths,
        (∃ pattern ∈ patterns, ∃ segments, Pattern.parse pattern = .ok segments ∧
          CutEvenly (Path.fold path) [] [] segments) →
        Path.fold path ∈ (tree.observeAll paths).completions := by
  obtain ⟨tree, htree, hholds⟩ := holds_empty.addAll accepted
  refine ⟨tree, htree, fun paths => ⟨fun text => hholds.mem_completions, ?_⟩⟩
  rintro path hpath ⟨pattern, hpattern, segments, hsegments, hcut⟩
  have visit : ⟨Path.fold path, 0⟩ ∈ Visit.ofPaths paths := List.mem_map_of_mem hpath
  obtain ⟨text, htext, hoffers⟩ := hcut.offers visit
  rw [htext]
  exact hholds.mem_completions.mpr ⟨pattern, hpattern, segments, hsegments, hoffers⟩

theorem completes_in_full_of_cutEvenly_sizes :
    ∃ tree, empty.addAll ["^([a-z]+)\\[n\\]$".toList] = .ok tree ∧
      "sizes[n]".toList ∈
        (tree.observeAll ["tags[0]".toList, "sizes[12]".toList]).completions := by
  let pattern := "^([a-z]+)\\[n\\]$".toList
  let segments : List Segment := [.caret, ⟨.capture, "([a-z]+)".toList, []⟩,
    ⟨.escapedMeta, "\\[".toList, "[".toList⟩, .plain "n".toList,
    ⟨.escapedMeta, "\\]".toList, "]".toList⟩, .dollar]
  have hsegments : Pattern.parse pattern = .ok segments :=
    eq_ok_of_toOption_eq_some (by decide +kernel)
  have hfold : Path.fold "sizes[12]".toList = "sizes[n]".toList := by decide +kernel
  have hcut : CutEvenly (Path.fold "sizes[12]".toList) [] [] segments := by
    rw [hfold]
    refine .fixed (by decide) (by decide) (by decide +kernel) ?_
    have htakes : prefixMatch? "^([a-z]+)".toList "sizes[n]".toList =
        some ([] ++ "sizes".toList) := by
      decide +kernel
    refine .varying (by decide) (by decide) htakes ?_
    refine .fixed (by decide) (by decide) (by decide +kernel) ?_
    refine .fixed (by decide) (by decide) (by decide +kernel) ?_
    refine .fixed (by decide) (by decide) (by decide +kernel) ?_
    exact .finish
  obtain ⟨tree, htree, h⟩ := completes_in_full_of_cutEvenly [pattern]
    (by simpa using ⟨segments, hsegments⟩)
  refine ⟨tree, htree, ?_⟩
  rw [← hfold]
  exact (h _).2 _ (by simp) ⟨pattern, by simp, segments, hsegments, hcut⟩

/-- A matched path need not complete in full: the class takes the letter that ends the path, and
the literal behind it is written once more. -/
theorem not_completes_in_full_of_fits :
    ¬ ∀ (patterns paths : List (List Char)) (tree : PatternTree), patterns ≠ [] →
      empty.addAll patterns = .ok tree → ∀ path ∈ paths,
        (∃ pattern ∈ patterns, Pattern.fits pattern (Path.fold path)) →
        Path.fold path ∈ (tree.observeAll paths).completions := by
  intro claim
  have hrun : (empty.addAll ["^[ab]+b$".toList]).toOption.map
      (fun tree => (tree.observeAll ["ab".toList]).completions) = some ["abb".toList] := by
    decide +kernel
  have hfold : Path.fold "ab".toList = "ab".toList := by decide +kernel
  have hfits : Pattern.fits "^[ab]+b$".toList (Path.fold "ab".toList) = true := by decide +kernel
  obtain ⟨tree, htree, hcompletions⟩ := Option.map_eq_some_iff.mp hrun
  have hmem := claim ["^[ab]+b$".toList] ["ab".toList] tree (List.cons_ne_nil _ _)
    (eq_ok_of_toOption_eq_some htree) "ab".toList (List.mem_singleton_self _)
    ⟨_, List.mem_singleton_self _, hfits⟩
  rw [hfold, hcompletions] at hmem
  exact absurd hmem (by decide)

end PatternTree
end NextWord
