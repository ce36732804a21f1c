import NextWord.Proofs.Pattern.Routes

/-!
# Paths on their way down

Several paths that walk down a tree one after the other may as well walk together: a node sees the
paths that its parent lets through, each with the length of what the parent took of it, and what it
remembers of them does not depend on the nodes beside it. So a walk changes the routes of a tree one
by one.
-/

namespace NextWord

/-- A path that comes to a node, and how many characters of it the parent took. -/
structure Visit where
  path : List Char
  length : Nat

namespace Visit

/-- The visit to the nodes below, if the prefix of a node takes something of the path. -/
def goOn? (source : List Char) (v : Visit) : Option Visit :=
  (PatternNode.prefixMatch? source v.path).map fun taken => ⟨v.path, taken.length⟩

/-- What a node remembers of the path: the text beyond what the parent took. -/
def slice? (source : List Char) (v : Visit) : Option (List Char) :=
  (PatternNode.prefixMatch? source v.path).map fun taken => taken.drop v.length

/-- Observed paths start at the root, where nothing of them has been taken. -/
def ofPaths (paths : List (List Char)) : List Visit :=
  paths.map fun path => ⟨Path.fold path, 0⟩

end Visit

namespace PatternNode

def walk (visits : List Visit) (node : PatternNode) : PatternNode :=
  visits.foldl (fun node v => observe v.path v.length node) node

theorem walk_nil : walk [] = id := rfl

theorem walk_append (visits others : List Visit) (node : PatternNode) :
    walk (visits ++ others) node = walk others (walk visits node) := by
  rw [walk, List.foldl_append]
  rfl

theorem observeAll_eq_map (path : List Char) (length : Nat) (nodes : List PatternNode) :
    observeAll path length nodes = nodes.map (observe path length) := by
  induction nodes with
  | nil => rfl
  | cons node nodes ih => rw [observeAll, ih, List.map_cons]

theorem mem_remember {seen : List (List Char)} {text known : List Char} :
    known ∈ remember seen text ↔ known ∈ seen ∨ known = text := by
  rw [remember]
  split
  · next h =>
    have hmem : text ∈ seen := by simpa using h
    constructor
    · exact .inl
    · rintro (hknown | rfl)
      · exact hknown
      · exact hmem
  · simp

theorem mem_foldl_remember {texts seen : List (List Char)} {known : List Char} :
    known ∈ texts.foldl remember seen ↔ known ∈ seen ∨ known ∈ texts := by
  induction texts generalizing seen with
  | nil => simp
  | cons text texts ih => rw [List.foldl_cons, ih, mem_remember, List.mem_cons, or_assoc]

/-- One visit: the node remembers its slice, and the nodes below are visited in turn. -/
theorem observe_mk (v : Visit) (segment : Segment) (source : List Char) (seen : List (List Char))
    (children : List PatternNode) :
    observe v.path v.length (.mk segment source seen children) =
      .mk segment source ((v.slice? source).toList.foldl remember seen)
        (children.map (walk (v.goOn? source).toList)) := by
  rw [observe]
  cases h : prefixMatch? source v.path with
  | none => simp [Visit.slice?, Visit.goOn?, h, walk_nil]
  | some taken =>
    simp only [Visit.slice?, Visit.goOn?, h, Option.map_some, Option.toList_some, List.foldl_cons,
      List.foldl_nil, observeAll_eq_map]
    rfl

/-- Paths walk together: each node deals with those that its parent lets through. -/
theorem walk_mk (visits : List Visit) (segment : Segment) (source : List Char)
    (seen : List (List Char)) (children : List PatternNode) :
    walk visits (.mk segment source seen children) =
      .mk segment source ((visits.filterMap (Visit.slice? source)).foldl remember seen)
        (children.map (walk (visits.filterMap (Visit.goOn? source)))) := by
  induction visits generalizing seen children with
  | nil => simp [walk_nil]
  | cons v visits ih =>
    have hslices : (v :: visits).filterMap (Visit.slice? source) =
        (v.slice? source).toList ++ visits.filterMap (Visit.slice? source) := by
      cases h : v.slice? source <;> simp [h]
    have hvisits : (v :: visits).filterMap (Visit.goOn? source) =
        (v.goOn? source).toList ++ visits.filterMap (Visit.goOn? source) := by
      cases h : v.goOn? source <;> simp [h]
    have hstep : walk (v :: visits) (.mk segment source seen children) =
        walk visits (observe v.path v.length (.mk segment source seen children)) := rfl
    rw [hstep, observe_mk, ih, hslices, hvisits, List.foldl_append, List.map_map]
    congr 1
    apply List.map_congr_left
    intro child _
    exact (walk_append _ _ child).symm

/-- Walking changes what nodes remember, and nothing else of the shape of a tree. -/
theorem grown_walk {before : List Char} {node : PatternNode} (h : Grown before node)
    (visits : List Visit) : Grown before (walk visits node) := by
  induction h generalizing visits with
  | finish =>
    rw [walk_mk]
    exact .finish
  | step proper not_dollar goesOn _ ih =>
    rw [walk_mk]
    refine .step proper not_dollar (by simpa using goesOn) ?_
    intro child hchild
    obtain ⟨old, hold, rfl⟩ := List.mem_map.mp hchild
    exact ih old hold _

/-- The stops of a route behind a prefix, after paths have walked down along it. -/
def walkStops : List Visit → List Char → List Stop → List Stop
  | _, _, [] => []
  | visits, before, ⟨segment, seen⟩ :: more =>
    let source := before ++ segment.source
    ⟨segment, (visits.filterMap (Visit.slice? source)).foldl remember seen⟩ ::
      walkStops (visits.filterMap (Visit.goOn? source)) source more

/-- The routes of a tree after a walk are its routes, each walked by itself. -/
theorem route_walk {before : List Char} {node : PatternNode} (h : Grown before node)
    {visits : List Visit} {stops : List Stop} :
    Route (walk visits node) stops ↔
      ∃ old, Route node old ∧ stops = walkStops visits before old := by
  induction h generalizing visits stops with
  | @finish before seen =>
    rw [walk_mk]
    constructor
    · intro route
      cases route with
      | finish => exact ⟨_, .finish rfl, rfl⟩
      | step not_dollar _ _ => exact absurd rfl not_dollar
    · rintro ⟨old, route, rfl⟩
      cases route with
      | finish => exact .finish rfl
      | step not_dollar _ _ => exact absurd rfl not_dollar
  | @step before segment seen children proper not_dollar goesOn grown ih =>
    rw [walk_mk, route_mk_iff not_dollar]
    constructor
    · rintro ⟨more, ⟨child, hchild, route⟩, rfl⟩
      obtain ⟨old, hold, rfl⟩ := List.mem_map.mp hchild
      obtain ⟨oldMore, oldRoute, rfl⟩ := (ih old hold).mp route
      exact ⟨_, .step not_dollar hold oldRoute, rfl⟩
    · rintro ⟨old, route, rfl⟩
      obtain ⟨oldMore, ⟨child, hchild, oldRoute⟩, rfl⟩ := (route_mk_iff not_dollar).mp route
      refine ⟨_, ⟨_, List.mem_map.mpr ⟨child, hchild, rfl⟩, ?_⟩, rfl⟩
      exact (ih child hchild).mpr ⟨oldMore, oldRoute, rfl⟩

end PatternNode
end NextWord
