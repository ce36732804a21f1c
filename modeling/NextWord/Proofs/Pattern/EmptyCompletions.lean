import NextWord.Proofs.Pattern.CrossProduct

/-!
# Patterns that complete to nothing

A completion breaks off in front of a class or a group of which no text was seen. If that is the
first thing behind the caret, or if nothing at all stands there, nothing is left of the completion:
the pattern offers the empty text. In all other cases something is written at the start, a text that
the pattern fixes or one that was seen.
-/

namespace NextWord

open PatternNode (prefixMatch? walkStops bare)

namespace Pattern

/-- Behind the caret of a key stands its end, or a class or a group of which no path shows a
text. -/
def OpensUnknown (paths : List (List Char)) (pattern : List Char) : Prop :=
  ∃ first more, parse pattern = .ok (Segment.caret :: first :: more) ∧
    (first = Segment.dollar ∨ first.isVariable = true ∧ ∀ path ∈ paths, ∀ taken,
      prefixMatch? ('^' :: first.source) (Path.fold path) = some taken → taken = [])

/-- A segment that writes a text of its own writes a character at least. -/
theorem literal_ne_nil_of_takeSegment {offset : Nat} {c : Char} {rest left : List Char}
    {s : Segment} (h : takeSegment offset c rest = .ok (s, left)) (isFixed : s.isVariable = false) :
    s.literal ≠ [] := by
  cases takes_of_takeSegment h with
  | escapedClass _ _ => simp [Segment.isVariable] at isFixed
  | mark _ _ _ => exact List.cons_ne_nil _ _
  | class_ _ _ => simp [Segment.isVariable] at isFixed
  | group _ _ => simp [Segment.isVariable] at isFixed
  | plain _ => exact List.cons_ne_nil _ _

theorem prefixMatch?_caret (path : List Char) : prefixMatch? ['^'] path = some [] :=
  prefixMatch?_spelling (List.forall_mem_nil _) .nil .nil path

/-- The caret takes nothing and lets all paths through. -/
theorem offers_caret_iff {paths : List (List Char)} {segments : List Segment} {text : List Char} :
    Offers (walkStops (Visit.ofPaths paths) [] (bare (Segment.caret :: segments))) text ↔
      Offers (walkStops (Visit.ofPaths paths) ['^'] (bare segments)) text := by
  have hthrough : (Visit.ofPaths paths).filterMap (Visit.goOn? ['^']) = Visit.ofPaths paths := by
    rw [Visit.ofPaths, List.filterMap_map, ← List.filterMap_eq_map]
    refine List.filterMap_congr fun path _ => ?_
    simp [Visit.goOn?, prefixMatch?_caret]
  have hsource : [] ++ Segment.caret.source = ['^'] := rfl
  rw [bare, List.map_cons, walkStops, hsource, hthrough]
  refine (offers_fixed_iff rfl (by decide)).trans ?_
  simp [Segment.caret, bare]

/-- What a segment behind the caret remembers is what it takes at the start of the paths. -/
theorem mem_seen_iff {paths : List (List Char)} {source value : List Char} :
    value ∈ ((Visit.ofPaths paths).filterMap (Visit.slice? source)).foldl
        PatternNode.remember [] ↔
      ∃ path ∈ paths, prefixMatch? source (Path.fold path) = some value := by
  simp [PatternNode.mem_foldl_remember, Visit.ofPaths, Visit.slice?]

theorem opensUnknown_iff {paths : List (List Char)} {pattern : List Char} {first : Segment}
    {more : List Segment} (h : parse pattern = .ok (Segment.caret :: first :: more)) :
    OpensUnknown paths pattern ↔
      first = Segment.dollar ∨ first.isVariable = true ∧ ∀ path ∈ paths, ∀ taken,
        prefixMatch? ('^' :: first.source) (Path.fold path) = some taken → taken = [] := by
  constructor
  · rintro ⟨first', more', hparse, hopens⟩
    obtain ⟨rfl, -⟩ : first = first' ∧ more = more' := by
      simpa using Except.ok.inj (h.symm.trans hparse)
    exact hopens
  · exact fun hopens => ⟨first, more, h, hopens⟩

/-- An accepted pattern offers the empty text exactly if nothing is known from its start on. -/
theorem offers_nil_iff {paths : List (List Char)} {pattern : List Char} {segments : List Segment}
    (h : parse pattern = .ok segments) :
    Offers (walkStops (Visit.ofPaths paths) [] (bare segments)) [] ↔
      OpensUnknown paths pattern := by
  obtain ⟨inner, rfl, fixed⟩ := exists_between_anchors
    (P := fun s => s.IsInner ∧ (s.isVariable = false → s.literal ≠ []))
    (fun htaken => ⟨isInner_of_takeSegment htaken, literal_ne_nil_of_takeSegment htaken⟩) h
  rw [List.cons_append, offers_caret_iff]
  -- What stands first behind the caret decides: behind it, completions only grow.
  cases inner with
  | nil =>
    rw [opensUnknown_iff h]
    exact iff_of_true (offers_dollar_iff.mpr rfl) (.inl rfl)
  | cons first inner =>
    obtain ⟨isInner, literal_ne⟩ := fixed first List.mem_cons_self
    have not_dollar : first ≠ Segment.dollar := by
      rintro rfl
      exact isInner.not_dollar rfl
    rw [opensUnknown_iff h, or_iff_right not_dollar, List.cons_append, bare, List.map_cons,
      walkStops]
    cases hvariable : first.isVariable with
    | false =>
      rw [offers_fixed_iff hvariable isInner.not_dollar]
      simp [literal_ne hvariable]
    | true =>
      rw [offers_variable_iff hvariable]
      simp only [mem_seen_iff, forall_exists_index, and_imp]
      constructor
      · rintro (⟨value, -, nonempty, rest, -, hnil⟩ | ⟨noneKnown, -⟩)
        · exact absurd (List.append_eq_nil_iff.mp hnil.symm).1 nonempty
        · exact ⟨trivial, fun path hpath taken htaken => noneKnown taken path hpath htaken⟩
      · rintro ⟨-, noneKnown⟩
        exact .inr ⟨fun value path hpath hvalue => noneKnown path hpath value hvalue, trivial⟩

end Pattern

/-- A tree offers the empty text exactly if one of its patterns does. -/
theorem PatternTree.Holds.nil_mem_completions {tree : PatternTree} {patterns : List (List Char)}
    (h : tree.Holds patterns) {paths : List (List Char)} :
    [] ∈ (tree.observeAll paths).completions ↔
      ∃ pattern ∈ patterns, Pattern.OpensUnknown paths pattern := by
  rw [h.mem_completions]
  refine exists_congr fun pattern => and_congr_right fun _ => ?_
  constructor
  · rintro ⟨segments, hparse, offers⟩
    exact (Pattern.offers_nil_iff hparse).mp offers
  · rintro ⟨first, more, hparse, hopens⟩
    exact ⟨_, hparse, (Pattern.offers_nil_iff hparse).mpr ⟨first, more, hparse, hopens⟩⟩

end NextWord
