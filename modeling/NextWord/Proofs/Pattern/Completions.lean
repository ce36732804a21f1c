import NextWord.Proofs.Outcome
import NextWord.Proofs.Pattern.Walk

/-!
# What a tree offers

The completions of a tree are those of its routes: a route writes the literals of its fixed segments
and any text that its variable segments remember, up to the first of them that remembers none. For
a tree that was grown from patterns and then walked by paths, the routes are those of the patterns,
each walked by the paths alone. So patterns that share nodes offer what each of them would offer in
a tree of its own.
-/

namespace NextWord

/-- The texts that the stops of a route offer. -/
inductive Offers : List Stop → List Char → Prop
  | finish {seen : List (List Char)} : Offers [⟨.dollar, seen⟩] []
  | fixed {segment : Segment} {seen : List (List Char)} {more : List Stop} {text : List Char}
      (isFixed : segment.isVariable = false) (not_dollar : segment.kind ≠ .dollar)
      (rest : Offers more text) : Offers (⟨segment, seen⟩ :: more) (segment.literal ++ text)
  | known {segment : Segment} {seen : List (List Char)} {more : List Stop} {value text : List Char}
      (isVariable : segment.isVariable) (isKnown : value ∈ seen) (nonempty : value ≠ [])
      (rest : Offers more text) : Offers (⟨segment, seen⟩ :: more) (value ++ text)
  | unknown {segment : Segment} {seen : List (List Char)} {more : List Stop}
      (isVariable : segment.isVariable) (noneKnown : ∀ value ∈ seen, value = []) :
      Offers (⟨segment, seen⟩ :: more) []

section Offers

variable {segment : Segment} {seen : List (List Char)} {more : List Stop} {text : List Char}

theorem offers_dollar_iff : Offers [⟨.dollar, seen⟩] text ↔ text = [] := by
  constructor
  · intro h
    cases h with
    | finish => rfl
    | fixed _ not_dollar _ => exact absurd rfl not_dollar
    | known isVariable _ _ _ => exact absurd isVariable (by decide)
    | unknown _ _ => rfl
  · rintro rfl
    exact .finish

theorem offers_fixed_iff (isFixed : segment.isVariable = false)
    (not_dollar : segment.kind ≠ .dollar) : Offers (⟨segment, seen⟩ :: more) text ↔
      ∃ rest, Offers more rest ∧ text = segment.literal ++ rest := by
  constructor
  · intro h
    cases h with
    | finish => exact absurd rfl not_dollar
    | fixed _ _ rest => exact ⟨_, rest, rfl⟩
    | known isVariable _ _ _ => exact absurd isVariable (by simp [isFixed])
    | unknown isVariable _ => exact absurd isVariable (by simp [isFixed])
  · rintro ⟨rest, hrest, rfl⟩
    exact .fixed isFixed not_dollar hrest

theorem offers_variable_iff (isVariable : segment.isVariable) :
    Offers (⟨segment, seen⟩ :: more) text ↔
      (∃ value ∈ seen, value ≠ [] ∧ ∃ rest, Offers more rest ∧ text = value ++ rest) ∨
      (∀ value ∈ seen, value = []) ∧ text = [] := by
  constructor
  · intro h
    cases h with
    | finish => exact absurd isVariable (by decide)
    | fixed isFixed _ _ => exact absurd isVariable (by simp [isFixed])
    | known _ isKnown nonempty rest => exact .inl ⟨_, isKnown, nonempty, _, rest, rfl⟩
    | unknown _ noneKnown => exact .inr ⟨noneKnown, rfl⟩
  · rintro (⟨value, isKnown, nonempty, rest, hrest, rfl⟩ | ⟨noneKnown, rfl⟩)
    · exact .known isVariable isKnown nonempty hrest
    · exact .unknown isVariable noneKnown

end Offers

namespace PatternNode

theorem mem_completionsAll {children : List PatternNode} {text : List Char} :
    text ∈ completionsAll children ↔ ∃ child ∈ children, text ∈ completions child := by
  induction children with
  | nil => simp [completionsAll]
  | cons child children ih => simp [completionsAll, ih]

theorem mem_offered {values options : List (List Char)} {text : List Char} :
    text ∈ offered values options ↔
      (values = [] ∧ text = []) ∨ ∃ value ∈ values, ∃ option ∈ options, text = value ++ option := by
  rw [offered]
  cases values with
  | nil => simp
  | cons value values =>
    rw [if_neg (by simp)]
    constructor
    · intro h
      obtain ⟨option, hoption, hmem⟩ := List.mem_flatMap.mp h
      obtain ⟨known, hknown, rfl⟩ := List.mem_map.mp hmem
      exact .inr ⟨known, hknown, option, hoption, rfl⟩
    · rintro (⟨hnil, -⟩ | ⟨known, hknown, option, hoption, rfl⟩)
      · exact absurd hnil (by simp)
      · exact List.mem_flatMap.mpr ⟨option, hoption, List.mem_map.mpr ⟨known, hknown, rfl⟩⟩

theorem completions_of_isVariable {segment : Segment} (h : segment.isVariable)
    (source : List Char) (seen : List (List Char)) (children : List PatternNode) :
    completions (.mk segment source seen children) =
      offered (seen.filter (· ≠ [])) (completionsAll children) := by
  obtain ⟨kind, _, _⟩ := segment
  cases kind <;> simp [Segment.isVariable] at h <;> rfl

/-- The caret of a key writes nothing, so it may be taken for a literal. -/
theorem completions_of_isFixed {segment : Segment} (proper : segment.IsProper)
    (h : segment.isVariable = false) (not_dollar : segment.kind ≠ .dollar) (source : List Char)
    (seen : List (List Char)) (children : List PatternNode) :
    completions (.mk segment source seen children) =
      (completionsAll children).map (segment.literal ++ ·) := by
  cases hkind : segment.kind with
  | caret => simp [completions, hkind, proper.literal_eq_nil hkind]
  | dollar => exact absurd hkind not_dollar
  | literal => simp [completions, hkind]
  | escapedMeta => simp [completions, hkind]
  | charClass => simp [Segment.isVariable, hkind] at h
  | capture => simp [Segment.isVariable, hkind] at h

/-- A tree offers what its routes offer. -/
theorem mem_completions {before : List Char} {node : PatternNode} (h : Grown before node)
    {text : List Char} :
    text ∈ completions node ↔ ∃ stops, Route node stops ∧ Offers stops text := by
  induction h generalizing text with
  | @finish before seen =>
    have hcompletions :
        completions (.mk .dollar (before ++ Segment.dollar.source) seen []) = [[]] := rfl
    rw [hcompletions, List.mem_singleton]
    constructor
    · rintro rfl
      exact ⟨_, .finish rfl, .finish⟩
    · rintro ⟨stops, route, offers⟩
      cases route with
      | step not_dollar _ _ => exact absurd rfl not_dollar
      | finish _ => exact offers_dollar_iff.mp offers
  | @step before segment seen children proper not_dollar goesOn grown ih =>
    have hbelow {option : List Char} : option ∈ completionsAll children ↔
        ∃ child ∈ children, ∃ more, Route child more ∧ Offers more option := by
      rw [mem_completionsAll]
      constructor
      · rintro ⟨child, hchild, hoption⟩
        exact ⟨child, hchild, (ih child hchild).mp hoption⟩
      · rintro ⟨child, hchild, hoption⟩
        exact ⟨child, hchild, (ih child hchild).mpr hoption⟩
    cases hvariable : segment.isVariable with
    | false =>
      rw [completions_of_isFixed proper hvariable not_dollar, List.mem_map]
      constructor
      · rintro ⟨option, hoption, rfl⟩
        obtain ⟨child, hchild, more, route, offers⟩ := hbelow.mp hoption
        exact ⟨_, .step not_dollar hchild route, .fixed hvariable not_dollar offers⟩
      · rintro ⟨stops, route, offers⟩
        obtain ⟨more, ⟨child, hchild, hmore⟩, rfl⟩ := (route_mk_iff not_dollar).mp route
        obtain ⟨rest, hrest, rfl⟩ := (offers_fixed_iff hvariable not_dollar).mp offers
        exact ⟨_, hbelow.mpr ⟨child, hchild, more, hmore, hrest⟩, rfl⟩
    | true =>
      rw [completions_of_isVariable hvariable, mem_offered]
      constructor
      · rintro (⟨hnone, rfl⟩ | ⟨value, hvalue, option, hoption, rfl⟩)
        · -- Nothing is known here, so any route on from here offers the empty text.
          obtain ⟨child, hchild⟩ := List.exists_mem_of_ne_nil children goesOn
          obtain ⟨more, route⟩ := (grown child hchild).exists_route
          refine ⟨_, .step not_dollar hchild route, .unknown hvariable ?_⟩
          simpa using hnone
        · obtain ⟨hknown, hnonempty⟩ := List.mem_filter.mp hvalue
          obtain ⟨child, hchild, more, route, offers⟩ := hbelow.mp hoption
          exact ⟨_, .step not_dollar hchild route,
            .known hvariable hknown (by simpa using hnonempty) offers⟩
      · rintro ⟨stops, route, offers⟩
        obtain ⟨more, ⟨child, hchild, hmore⟩, rfl⟩ := (route_mk_iff not_dollar).mp route
        rcases (offers_variable_iff hvariable).mp offers with
          ⟨value, isKnown, nonempty, rest, hrest, rfl⟩ | ⟨noneKnown, rfl⟩
        · exact .inr ⟨value, List.mem_filter.mpr ⟨isKnown, by simpa using nonempty⟩, rest,
            hbelow.mpr ⟨child, hchild, more, hmore, hrest⟩, rfl⟩
        · exact .inl ⟨by simpa using noneKnown, rfl⟩

end PatternNode

namespace PatternTree

open PatternNode (Grown Unseen Route bare walk walkStops)

def addAll (tree : PatternTree) (patterns : List (List Char)) : Except PatternFault PatternTree :=
  patterns.foldlM add tree

def observeAll (tree : PatternTree) (paths : List (List Char)) : PatternTree :=
  paths.foldl observe tree

/-- A tree that these patterns have grown and no path has walked: its routes are theirs. -/
structure Holds (tree : PatternTree) (patterns : List (List Char)) : Prop where
  shape : ∀ root ∈ tree.root, Grown [] root ∧ Unseen root ∧ root.segment = .caret
  routes : ∀ stops, (∃ root ∈ tree.root, Route root stops) ↔
    ∃ pattern ∈ patterns, ∃ segments, Pattern.parse pattern = .ok segments ∧ stops = bare segments

theorem holds_empty : empty.Holds [] where
  shape := by simp [empty]
  routes := by simp [empty]

theorem Holds.isGrown {tree : PatternTree} {patterns : List (List Char)}
    (h : tree.Holds patterns) : tree.IsGrown :=
  fun root hroot => ⟨(h.shape root hroot).1, (h.shape root hroot).2.2⟩

/-- One more accepted pattern makes one more route. -/
theorem Holds.add {tree : PatternTree} {patterns : List (List Char)} (h : tree.Holds patterns)
    {pattern : List Char} {segments : List Segment}
    (accepted : Pattern.parse pattern = .ok segments) :
    ∃ grown, tree.add pattern = .ok grown ∧ grown.Holds (patterns ++ [pattern]) := by
  obtain ⟨more, rfl, -⟩ := Pattern.exists_closed_of_parse accepted
  obtain ⟨root, hadd, hroot⟩ := exists_add h.isGrown accepted
  have hshape : Grown [] root ∧ Unseen root ∧ root.segment = .caret := by
    rcases hroot with ⟨-, hkey, rfl⟩ | ⟨old, hold, hclosed, rfl⟩
    · exact ⟨PatternNode.grown_chain hkey, PatternNode.unseen_chain _ _ _,
        PatternNode.segment_chain _ _ _⟩
    · obtain ⟨grown, unseen, hsegment⟩ := h.shape old hold
      exact ⟨PatternNode.grown_extend grown hclosed, PatternNode.unseen_extend unseen,
        by rw [PatternNode.segment_extend, hsegment]⟩
  have hroutes (stops : List Stop) : Route root stops ↔
      (∃ old ∈ tree.root, Route old stops) ∨ stops = bare (Segment.caret :: more) := by
    rcases hroot with ⟨hnone, hkey, rfl⟩ | ⟨old, hold, hclosed, rfl⟩
    · simp [PatternNode.route_chain hkey, hnone]
    · obtain ⟨grown, unseen, hsegment⟩ := h.shape old hold
      simp [PatternNode.route_extend grown unseen hclosed, hold, hsegment]
  refine ⟨_, hadd, ?_, fun stops => ?_⟩
  · rintro extended ⟨⟩
    exact hshape
  · have hadded : (∃ grown ∈ some root, Route grown stops) ↔ Route root stops := by simp
    rw [hadded, hroutes, h.routes]
    simp [or_and_right, exists_or, accepted]

/-- Accepted patterns can be added one after the other, whatever they share. -/
theorem Holds.addAll {tree : PatternTree} {known patterns : List (List Char)} (h : tree.Holds known)
    (accepted : ∀ pattern ∈ patterns, ∃ segments, Pattern.parse pattern = .ok segments) :
    ∃ grown, tree.addAll patterns = .ok grown ∧ grown.Holds (known ++ patterns) := by
  induction patterns generalizing tree known with
  | nil => exact ⟨tree, rfl, by simpa using h⟩
  | cons pattern patterns ih =>
    obtain ⟨segments, hsegments⟩ := accepted pattern List.mem_cons_self
    obtain ⟨next, hnext, hholds⟩ := h.add hsegments
    obtain ⟨grown, hgrown, hall⟩ :=
      ih hholds fun other hother => accepted other (List.mem_cons_of_mem pattern hother)
    refine ⟨grown, ?_, by simpa using hall⟩
    rw [PatternTree.addAll, List.foldlM_cons, hnext]
    exact hgrown

theorem root_observeAll (tree : PatternTree) (paths : List (List Char)) :
    (tree.observeAll paths).root = tree.root.map (walk (Visit.ofPaths paths)) := by
  induction paths generalizing tree with
  | nil => cases h : tree.root <;> simp [observeAll, Visit.ofPaths, PatternNode.walk_nil, h]
  | cons path paths ih =>
    have hstep : tree.observeAll (path :: paths) = (tree.observe path).observeAll paths := rfl
    rw [hstep, ih, observe, Option.map_map]
    rfl

theorem mem_completions {tree : PatternTree} {text : List Char} :
    text ∈ tree.completions ↔ ∃ root ∈ tree.root, text ∈ root.completions := by
  rw [completions]
  cases tree.root <;> simp [List.mem_eraseDups]

/-- What a tree offers after paths have walked it is what its patterns offer one by one. -/
theorem Holds.mem_completions {tree : PatternTree} {patterns : List (List Char)}
    (h : tree.Holds patterns) {paths : List (List Char)} {text : List Char} :
    text ∈ (tree.observeAll paths).completions ↔
      ∃ pattern ∈ patterns, ∃ segments, Pattern.parse pattern = .ok segments ∧
        Offers (walkStops (Visit.ofPaths paths) [] (bare segments)) text := by
  rw [PatternTree.mem_completions, root_observeAll]
  constructor
  · rintro ⟨walked, hwalked, htext⟩
    obtain ⟨root, hroot, rfl⟩ := Option.map_eq_some_iff.mp hwalked
    obtain ⟨grown, -, -⟩ := h.shape root hroot
    obtain ⟨stops, route, offers⟩ :=
      (PatternNode.mem_completions (PatternNode.grown_walk grown _)).mp htext
    obtain ⟨old, hold, rfl⟩ := (PatternNode.route_walk grown).mp route
    obtain ⟨pattern, hpattern, segments, hsegments, rfl⟩ := (h.routes old).mp ⟨root, hroot, hold⟩
    exact ⟨pattern, hpattern, segments, hsegments, offers⟩
  · rintro ⟨pattern, hpattern, segments, hsegments, offers⟩
    obtain ⟨root, hroot, route⟩ := (h.routes _).mpr ⟨pattern, hpattern, segments, hsegments, rfl⟩
    obtain ⟨grown, -, -⟩ := h.shape root hroot
    refine ⟨_, Option.map_eq_some_iff.mpr ⟨root, hroot, rfl⟩, ?_⟩
    exact (PatternNode.mem_completions (PatternNode.grown_walk grown _)).mpr
      ⟨_, (PatternNode.route_walk grown).mpr ⟨_, route, rfl⟩, offers⟩

/-- Sharing nodes neither adds a completion nor loses one: whatever paths walk them, a tree of
accepted patterns offers what the trees of the single patterns offer between them. -/
theorem mem_completions_iff_alone (patterns : List (List Char))
    (accepted : ∀ pattern ∈ patterns, ∃ segments, Pattern.parse pattern = .ok segments) :
    ∃ tree, empty.addAll patterns = .ok tree ∧ ∀ (paths : List (List Char)) (text : List Char),
      text ∈ (tree.observeAll paths).completions ↔
        ∃ pattern ∈ patterns, ∃ alone, empty.add pattern = .ok alone ∧
          text ∈ (alone.observeAll paths).completions := by
  obtain ⟨tree, htree, hholds⟩ := holds_empty.addAll accepted
  refine ⟨tree, htree, fun paths text => ?_⟩
  rw [hholds.mem_completions, List.nil_append]
  constructor
  · rintro ⟨pattern, hpattern, segments, hsegments, offers⟩
    obtain ⟨alone, halone, hsingle⟩ := holds_empty.add hsegments
    refine ⟨pattern, hpattern, alone, halone, hsingle.mem_completions.mpr ?_⟩
    exact ⟨pattern, by simp, segments, hsegments, offers⟩
  · rintro ⟨pattern, hpattern, alone, halone, htext⟩
    obtain ⟨segments, hsegments⟩ := accepted pattern hpattern
    obtain ⟨single, hadd, hsingle⟩ := holds_empty.add hsegments
    obtain rfl : alone = single := Except.ok.inj (halone.symm.trans hadd)
    obtain ⟨registered, hregistered, offered⟩ := hsingle.mem_completions.mp htext
    obtain rfl : registered = pattern := by simpa using hregistered
    exact ⟨registered, hpattern, offered⟩

/-- Two patterns share the node of a name that only a path of the first has shown. -/
theorem mem_completions_iff_alone_parts :
    let minimum := "^parts\\.([a-z]+)\\.min$".toList
    let label := "^parts\\.([a-z]+)\\.label$".toList
    (∀ pattern ∈ [minimum, label], ∃ segments, Pattern.parse pattern = .ok segments) ∧
      ∃ tree, empty.addAll [minimum, label] = .ok tree ∧
        ("parts.bolt.label".toList ∈ (tree.observeAll ["parts.bolt.min".toList]).completions ↔
          ∃ pattern ∈ [minimum, label], ∃ alone, empty.add pattern = .ok alone ∧
            "parts.bolt.label".toList ∈
              (alone.observeAll ["parts.bolt.min".toList]).completions) := by
  intro minimum label
  have accepted : ∀ pattern ∈ [minimum, label], ∃ segments,
      Pattern.parse pattern = .ok segments := by
    have hparsed : ∀ pattern ∈ [minimum, label],
        (Pattern.parse pattern).toOption.isSome = true := by
      decide +kernel
    intro pattern hpattern
    obtain ⟨segments, hsegments⟩ := Option.isSome_iff_exists.mp (hparsed pattern hpattern)
    exact ⟨segments, eq_ok_of_toOption_eq_some hsegments⟩
  obtain ⟨tree, htree, h⟩ := mem_completions_iff_alone [minimum, label] accepted
  exact ⟨accepted, tree, htree, h _ _⟩

end PatternTree
end NextWord
