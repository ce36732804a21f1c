import Mathlib.Data.List.Nodup
import Mathlib.Data.List.Perm.Lattice
import NextWord.Proofs.Pattern.Spelling
import NextWord.Proofs.Pattern.Stepwise
import NextWord.Proofs.Pattern.Walk

/-!
# What a tree is made of

Patterns are added to a tree and paths walk it, in any order, and some of the patterns are refused.
The ways from the root down to a dollar are then the accepted patterns, each of them once however
often it was added, and nothing else is in the tree. Nodes are looked for by the source of their
segments; as that tells the whole segment, no pattern goes through a node of another segment.

A step of a run keeps what the ways to the ends are, given what they were; this needs only the shape
of a tree and that no two children of a node have the same source, which every step keeps as well.
-/

namespace NextWord

namespace PatternNode

open Pattern (Closed)

/-- A way down from a node to a node, by the segments on it. -/
inductive Leads : PatternNode → List Segment → PatternNode → Prop
  | here {node : PatternNode} : Leads node [node.segment] node
  | step {segment : Segment} {source : List Char} {seen : List (List Char)}
      {children : List PatternNode} {child last : PatternNode} {segments : List Segment}
      (isChild : child ∈ children) (leads : Leads child segments last) :
      Leads (.mk segment source seen children) (segment :: segments) last

mutual

/-- The ways from a node down to a dollar, in the order of the children. -/
def ends : PatternNode → List (List Segment)
  | .mk segment _ _ children =>
    (if segment.kind = .dollar then [[segment]] else []) ++ (endsAmong children).map (segment :: ·)

def endsAmong : List PatternNode → List (List Segment)
  | [] => []
  | node :: rest => ends node ++ endsAmong rest

end

/-- Nodes whose children have sources of their own, at every depth. -/
inductive Apart : PatternNode → Prop
  | mk {segment : Segment} {source : List Char} {seen : List (List Char)}
      {children : List PatternNode}
      (apart : (children.map fun child => child.segment.source).Nodup)
      (below : ∀ child ∈ children, Apart child) : Apart (.mk segment source seen children)

section Ways

variable {node last : PatternNode} {segments : List Segment}

theorem Leads.exists_cons (h : Leads node segments last) :
    ∃ more, segments = node.segment :: more := by
  cases h <;> exact ⟨_, rfl⟩

theorem endsAmong_eq_flatMap (nodes : List PatternNode) : endsAmong nodes = nodes.flatMap ends := by
  induction nodes with
  | nil => rfl
  | cons node nodes ih => rw [endsAmong, ih, List.flatMap_cons]

theorem ends_eq_map {segment : Segment} (not_dollar : segment.kind ≠ .dollar) (source : List Char)
    (seen : List (List Char)) (children : List PatternNode) :
    ends (.mk segment source seen children) = (children.flatMap ends).map (segment :: ·) := by
  rw [ends, if_neg not_dollar, List.nil_append, endsAmong_eq_flatMap]

theorem ends_dollar (source : List Char) (seen : List (List Char)) :
    ends (.mk .dollar source seen []) = [[.dollar]] := rfl

theorem exists_cons_of_mem_ends {before : List Char} (h : Grown before node)
    (isEnd : segments ∈ ends node) : ∃ more, segments = node.segment :: more := by
  cases h with
  | finish =>
    rw [ends_dollar, List.mem_singleton] at isEnd
    exact ⟨[], isEnd⟩
  | step _ not_dollar _ _ =>
    rw [ends_eq_map not_dollar] at isEnd
    obtain ⟨more, -, rfl⟩ := List.mem_map.mp isEnd
    exact ⟨more, rfl⟩

/-- The ends of a tree are the ways that lead to a dollar. -/
theorem mem_ends_iff {before : List Char} (h : Grown before node) :
    segments ∈ ends node ↔ ∃ last, Leads node segments last ∧ last.segment.kind = .dollar := by
  induction h generalizing segments with
  | finish =>
    rw [ends_dollar, List.mem_singleton]
    constructor
    · rintro rfl
      exact ⟨_, .here, rfl⟩
    · rintro ⟨last, leads, -⟩
      cases leads with
      | here => rfl
      | step isChild _ => exact absurd isChild List.not_mem_nil
  | @step before segment seen children proper not_dollar _ _ ih =>
    rw [ends_eq_map not_dollar]
    simp only [List.mem_map, List.mem_flatMap]
    constructor
    · rintro ⟨more, ⟨child, isChild, hmore⟩, rfl⟩
      obtain ⟨last, leads, isDollar⟩ := (ih child isChild).mp hmore
      exact ⟨last, .step isChild leads, isDollar⟩
    · rintro ⟨last, leads, isDollar⟩
      cases leads with
      | here => exact absurd isDollar not_dollar
      | @step _ _ _ _ child _ more isChild leads =>
        exact ⟨more, ⟨child, isChild, (ih child isChild).mpr ⟨last, leads, isDollar⟩⟩, rfl⟩

/-- What grew at the end of a way grew behind what the way spells. -/
theorem Leads.grown {before : List Char} (h : Leads node segments last) (grown : Grown before node) :
    ∃ front, segments = front ++ [last.segment] ∧ Grown (before ++ Pattern.spelling front) last := by
  induction h generalizing before with
  | here => exact ⟨[], rfl, by simpa [Pattern.spelling] using grown⟩
  | @step segment source seen children child last segments isChild _ ih =>
    have hsource := grown.source_eq
    obtain ⟨front, rfl, hlast⟩ := ih (grown.of_mem_children isChild)
    refine ⟨segment :: front, rfl, ?_⟩
    rw [hsource] at hlast
    rwa [Pattern.spelling_cons, ← List.append_assoc]

/-- All segments on a way are read off their source. -/
theorem Leads.isProper {before : List Char} (h : Leads node segments last)
    (grown : Grown before node) : ∀ s ∈ segments, s.IsProper := by
  induction h generalizing before with
  | here =>
    intro s hs
    obtain rfl := List.mem_singleton.mp hs
    exact grown.isProper
  | step isChild _ ih =>
    intro s hs
    rcases List.mem_cons.mp hs with rfl | hs
    · exact grown.isProper
    · exact ih (grown.of_mem_children isChild) s hs

/-- A way passes through a node at each of its segments. -/
theorem Leads.exists_of_prefix (h : Leads node segments last) {front : List Segment}
    (hne : front ≠ []) (hfront : front <+: segments) : ∃ middle, Leads node front middle := by
  induction h generalizing front with
  | @here node =>
    obtain ⟨s, more, rfl⟩ := List.exists_cons_of_ne_nil hne
    obtain ⟨rfl, hmore⟩ := List.cons_prefix_cons.mp hfront
    obtain rfl := List.prefix_nil.mp hmore
    exact ⟨node, .here⟩
  | @step segment source seen children child last segments isChild leads ih =>
    obtain ⟨s, more, rfl⟩ := List.exists_cons_of_ne_nil hne
    obtain ⟨rfl, hmore⟩ := List.cons_prefix_cons.mp hfront
    by_cases hnil : more = []
    · subst hnil
      exact ⟨.mk s source seen children, .here⟩
    · obtain ⟨middle, hmiddle⟩ := ih hnil hmore
      exact ⟨middle, .step isChild hmiddle⟩

/-- A dollar ends a way, and everything else has a dollar below it. -/
theorem Grown.dollar_or_above {before : List Char} (h : Grown before node) :
    (node.segment.kind = .dollar ∧ node.children = []) ∨
      node.segment.kind ≠ .dollar ∧
        ∃ child ∈ node.children, ∃ segments last, Leads child segments last ∧
          last.segment.kind = .dollar := by
  induction h with
  | finish => exact .inl ⟨rfl, rfl⟩
  | @step before segment seen children _ not_dollar goesOn _ ih =>
    obtain ⟨child, isChild⟩ := List.exists_mem_of_ne_nil children goesOn
    refine .inr ⟨not_dollar, child, isChild, ?_⟩
    rcases ih child isChild with ⟨isDollar, -⟩ | ⟨-, below, isBelow, segments, last, leads, hlast⟩
    · exact ⟨_, _, .here, isDollar⟩
    · obtain ⟨segment, source, seen, children⟩ := child
      exact ⟨_, last, .step isBelow leads, hlast⟩

/-- Sources tell the children of a node apart, so they tell all nodes apart. -/
theorem Leads.unique {other : PatternNode} {others : List Segment} (apart : Apart node)
    (h : Leads node segments last) (hother : Leads node others other)
    (hsame : segments.map Segment.source = others.map Segment.source) : last = other := by
  induction h generalizing others with
  | here =>
    cases hother with
    | here => rfl
    | step _ leads =>
      obtain ⟨more, rfl⟩ := leads.exists_cons
      simp at hsame
  | @step segment source seen children child last segments isChild leads ih =>
    cases hother with
    | here =>
      obtain ⟨more, rfl⟩ := leads.exists_cons
      simp at hsame
    | @step _ _ _ _ child' _ others isChild' leads' =>
      cases apart with
      | mk apart below =>
        have htail := (List.cons.inj hsame).2
        obtain ⟨more, rfl⟩ := leads.exists_cons
        obtain ⟨more', rfl⟩ := leads'.exists_cons
        have hhead : child.segment.source = child'.segment.source := (List.cons.inj htail).1
        obtain rfl := List.inj_on_of_nodup_map apart isChild isChild' hhead
        exact ih (below child isChild) leads' htail

/-- No way is there twice. -/
theorem nodup_ends {before : List Char} (grown : Grown before node) (apart : Apart node) :
    (ends node).Nodup := by
  induction grown with
  | finish => simp [ends_dollar]
  | @step before segment seen children _ not_dollar _ grown ih =>
    cases apart with
    | mk apart below =>
      rw [ends_eq_map not_dollar]
      refine List.Nodup.map (fun _ _ h => (List.cons.inj h).2) (List.nodup_flatMap.mpr ⟨?_, ?_⟩)
      · exact fun child isChild => ih child isChild (below child isChild)
      · -- Ways from two children start with different segments.
        refine List.Pairwise.imp_of_mem ?_ (List.pairwise_map.mp apart)
        intro child child' isChild isChild' hne way hway hway'
        obtain ⟨more, rfl⟩ := exists_cons_of_mem_ends (grown child isChild) hway
        obtain ⟨more', heq⟩ := exists_cons_of_mem_ends (grown child' isChild') hway'
        exact hne (congrArg Segment.source (List.cons.inj heq).1)

end Ways

section Steps

theorem apart_chain (before : List Char) (s : Segment) (more : List Segment) :
    Apart (chain before s more) := by
  induction more generalizing before s with
  | nil => exact .mk List.nodup_nil (by simp)
  | cons next more ih =>
    refine .mk (by simp) ?_
    intro child hchild
    obtain rfl := List.mem_singleton.mp hchild
    exact ih _ _

theorem ends_chain {before : List Char} {s : Segment} {more : List Segment}
    (h : Closed (s :: more)) : ends (chain before s more) = [s :: more] := by
  induction more generalizing before s with
  | nil =>
    cases h with
    | finish => rfl
    | step _ _ closed => exact absurd rfl closed.ne_nil
  | cons next more ih =>
    cases h with
    | step _ not_dollar closed =>
      rw [chain, ends_eq_map not_dollar, List.flatMap_cons, ih closed]
      rfl

/-- Adding a pattern adds its way, if it is not there, and no other one. -/
theorem mem_ends_extend {before : List Char} {node : PatternNode} {more way : List Segment}
    (hnode : Grown before node) (h : Closed (node.segment :: more)) :
    way ∈ ends (extend node more) ↔ way ∈ ends node ∨ way = node.segment :: more := by
  induction more generalizing before node way with
  | nil =>
    cases hnode with
    | finish =>
      rw [extend, ends_dollar]
      simp [PatternNode.segment]
    | step _ not_dollar _ _ => exact absurd rfl (h.tail not_dollar).ne_nil
  | cons next more ih =>
    cases hnode with
    | finish => exact absurd (h.eq_nil_of_dollar rfl) (by simp)
    | @step _ here seen children _ not_dollar _ grown =>
      have hnext : Closed (next :: more) := h.tail not_dollar
      have hbelow (extended : List PatternNode) (hextended : ∀ rest,
          (∃ child ∈ extended, rest ∈ ends child) ↔
            (∃ child ∈ children, rest ∈ ends child) ∨ rest = next :: more) :
          way ∈ ends (.mk here (before ++ here.source) seen extended) ↔
            way ∈ ends (.mk here (before ++ here.source) seen children) ∨
              way = here :: next :: more := by
        simp only [ends_eq_map not_dollar, List.mem_map, List.mem_flatMap, hextended, or_and_right,
          exists_or, exists_eq_left, eq_comm]
      rcases extend_cases here seen grown hnext with
        ⟨front, child, back, rfl, hchild, hextend⟩ | ⟨-, hextend⟩
      · rw [hextend]
        refine hbelow _ fun rest => ?_
        have hmore : rest ∈ ends (extend child more) ↔ rest ∈ ends child ∨ rest = next :: more := by
          rw [← hchild]
          exact ih (grown child (by simp)) (by rwa [hchild])
        simp only [List.mem_append, List.mem_cons, or_and_right, exists_or, exists_eq_left, hmore]
        grind
      · rw [hextend]
        refine hbelow _ fun rest => ?_
        simp only [List.mem_append, List.mem_singleton, or_and_right, exists_or, exists_eq_left,
          ends_chain hnext]

theorem apart_extend {before : List Char} {node : PatternNode} {more : List Segment}
    (hnode : Grown before node) (h : Closed (node.segment :: more)) (apart : Apart node) :
    Apart (extend node more) := by
  induction more generalizing before node with
  | nil => rwa [extend]
  | cons next more ih =>
    cases hnode with
    | finish => exact absurd (h.eq_nil_of_dollar rfl) (by simp)
    | @step _ segment seen children _ not_dollar _ grown =>
      cases apart with
      | mk apart below =>
        have hnext : Closed (next :: more) := h.tail not_dollar
        rw [extend]
        refine .mk ?_ (forall_mem_extendAmong below ?_ (apart_chain _ next more))
        · rcases extendAmong_cases (before ++ segment.source) children next more with
            ⟨front, child, back, rfl, -, hextend⟩ | ⟨hnew, hextend⟩
          · simpa [hextend, segment_extend] using apart
          · rw [hextend, List.map_append, List.map_singleton, segment_chain, List.nodup_append]
            simpa [apart] using hnew
        · intro child hchild hsame
          refine ih (grown child hchild) ?_ (below child hchild)
          rwa [(grown child hchild).isProper.eq_of_source_eq hnext.head hsame]

theorem segment_walk (visits : List Visit) (node : PatternNode) :
    (walk visits node).segment = node.segment := by
  obtain ⟨segment, source, seen, children⟩ := node
  rw [walk_mk]
  rfl

theorem ends_walk {before : List Char} {node : PatternNode} (h : Grown before node)
    (visits : List Visit) : ends (walk visits node) = ends node := by
  induction h generalizing visits with
  | finish =>
    rw [walk_mk]
    rfl
  | step _ not_dollar _ _ ih =>
    rw [walk_mk, ends_eq_map not_dollar, ends_eq_map not_dollar, List.flatMap_map]
    congr 1
    exact List.flatMap_congr fun child isChild => ih child isChild _

theorem apart_walk {node : PatternNode} (h : Apart node) (visits : List Visit) :
    Apart (walk visits node) := by
  induction h generalizing visits with
  | mk apart _ ih =>
    rw [walk_mk]
    refine .mk (by simpa [Function.comp_def, segment_walk] using apart) ?_
    intro child hchild
    obtain ⟨old, hold, rfl⟩ := List.mem_map.mp hchild
    exact ih old hold _

end Steps

end PatternNode

namespace Pattern

theorem Closed.isProper {segments : List Segment} (h : Closed segments) :
    ∀ s ∈ segments, s.IsProper := by
  induction h with
  | finish => simpa using Segment.isProper_dollar
  | step proper _ _ ih => exact List.forall_mem_cons.mpr ⟨proper, ih⟩

theorem isProper_of_parse {pattern : List Char} {segments : List Segment}
    (h : parse pattern = .ok segments) : ∀ s ∈ segments, s.IsProper := by
  obtain ⟨more, rfl, closed⟩ := exists_closed_of_parse h
  exact List.forall_mem_cons.mpr ⟨Segment.isProper_caret, closed.isProper⟩

/-- Segments that are read off their sources agree as far as their sources do. -/
theorem prefix_of_map_source_prefix {front segments : List Segment}
    (hfront : ∀ s ∈ front, s.IsProper) (hsegments : ∀ s ∈ segments, s.IsProper)
    (h : front.map Segment.source <+: segments.map Segment.source) : front <+: segments := by
  induction front generalizing segments with
  | nil => exact List.nil_prefix
  | cons s front ih =>
    cases segments with
    | nil => exact absurd (List.prefix_nil.mp h) (by simp)
    | cons t segments =>
      obtain ⟨hsource, hmore⟩ := List.cons_prefix_cons.mp h
      obtain rfl := (hfront s List.mem_cons_self).eq_of_source_eq
        (hsegments t List.mem_cons_self) hsource
      refine List.cons_prefix_cons.mpr ⟨rfl, ih ?_ ?_ hmore⟩
      · exact fun u hu => hfront u (List.mem_cons_of_mem s hu)
      · exact fun u hu => hsegments u (List.mem_cons_of_mem s hu)

end Pattern

/-- What is done with a tree: a pattern is added to it, or a path walks it. -/
inductive TreeCall
  | add (pattern : List Char)
  | observe (path : List Char)

namespace PatternTree

open PatternNode (Grown Apart)

/-- The tree after a call, whether or not the call has failed. -/
def call (tree : PatternTree) : TreeCall → PatternTree
  | .add pattern => (tree.register pattern).tree
  | .observe path => tree.observe path

/-- The tree after calls, the first of them on the empty tree. -/
def run (calls : List TreeCall) : PatternTree :=
  calls.foldl call empty

def accepted (calls : List TreeCall) : List (List Char) :=
  calls.filterMap fun
    | .add pattern => (Pattern.parse pattern).toOption.map fun _ => pattern
    | .observe _ => none

def ends (tree : PatternTree) : List (List Segment) :=
  tree.root.elim [] PatternNode.ends

def Leads (tree : PatternTree) (segments : List Segment) (node : PatternNode) : Prop :=
  ∃ root ∈ tree.root, root.Leads segments node

/-- A tree is these patterns and nothing else. -/
structure Merges (tree : PatternTree) (patterns : List (List Char)) : Prop where
  /-- The patterns are kept in order, with repetitions. -/
  kept : tree.patterns = patterns
  /-- The ways to the dollars spell them, each of them once. -/
  spelled : (tree.ends.map Pattern.spelling).Perm patterns.eraseDups
  /-- The prefix of a node is what the way to it spells, and its segment is the last on the way. -/
  source : ∀ {way node}, tree.Leads way node →
    node.source = Pattern.spelling way ∧ way.getLast? = some node.segment
  /-- There is one node for the sources on a way. -/
  unique : ∀ {way way' node node'}, tree.Leads way node → tree.Leads way' node' →
    way.map Segment.source = way'.map Segment.source → node = node'
  /-- A pattern passes through a node at each of its segments. -/
  passed : ∀ {pattern segments}, pattern ∈ patterns → Pattern.parse pattern = .ok segments →
    ∀ {front}, front ≠ [] → front <+: segments → ∃ node, tree.Leads front node
  /-- A pattern that has the sources on the way to a node has the segments on it. -/
  shared : ∀ {way node pattern segments}, tree.Leads way node → pattern ∈ patterns →
    Pattern.parse pattern = .ok segments →
    way.map Segment.source <+: segments.map Segment.source → way <+: segments
  /-- There is nothing below a dollar, and a dollar below everything else. -/
  ended : ∀ {way node}, tree.Leads way node →
    (node.segment.kind = .dollar ∧ node.children = []) ∨
      node.segment.kind ≠ .dollar ∧ ∃ child ∈ node.children, ∃ below last,
        child.Leads below last ∧ last.segment.kind = .dollar

/-- What every call keeps: the shape of the tree, and which ways lead to its ends. -/
structure Holding (tree : PatternTree) (patterns : List (List Char)) : Prop where
  kept : tree.patterns = patterns
  shape : ∀ root ∈ tree.root, Grown [] root ∧ Apart root ∧ root.segment = .caret
  mem_ends : ∀ way, way ∈ tree.ends ↔ ∃ pattern ∈ patterns, Pattern.parse pattern = .ok way
  accepted : ∀ pattern ∈ patterns, ∃ way, Pattern.parse pattern = .ok way

section Calls

variable {tree : PatternTree} {patterns : List (List Char)}

theorem holding_empty : empty.Holding [] where
  kept := rfl
  shape := by simp [empty]
  mem_ends := by simp [empty, ends]
  accepted := by simp

theorem Holding.isGrown (h : tree.Holding patterns) : tree.IsGrown :=
  fun root hroot => ⟨(h.shape root hroot).1, (h.shape root hroot).2.2⟩

theorem Holding.add (h : tree.Holding patterns) {pattern : List Char} {segments : List Segment}
    (hparse : Pattern.parse pattern = .ok segments) :
    ∃ grown, tree.add pattern = .ok grown ∧ grown.Holding (patterns ++ [pattern]) := by
  obtain ⟨more, rfl, -⟩ := Pattern.exists_closed_of_parse hparse
  obtain ⟨root, hadd, hroot⟩ := exists_add h.isGrown hparse
  have hall : ∀ p ∈ patterns ++ [pattern], ∃ way, Pattern.parse p = .ok way := by
    intro p hp
    rcases List.mem_append.mp hp with hp | hp
    · exact h.accepted p hp
    · obtain rfl := List.mem_singleton.mp hp
      exact ⟨_, hparse⟩
  have hshape : Grown [] root ∧ Apart root ∧ root.segment = .caret := by
    rcases hroot with ⟨-, hkey, rfl⟩ | ⟨old, hold, hclosed, rfl⟩
    · exact ⟨PatternNode.grown_chain hkey, PatternNode.apart_chain _ _ _,
        PatternNode.segment_chain _ _ _⟩
    · obtain ⟨grown, apart, hsegment⟩ := h.shape old hold
      exact ⟨PatternNode.grown_extend grown hclosed, PatternNode.apart_extend grown hclosed apart,
        by rw [PatternNode.segment_extend, hsegment]⟩
  have hends (way : List Segment) :
      way ∈ root.ends ↔ way ∈ tree.ends ∨ way = Segment.caret :: more := by
    rcases hroot with ⟨hnone, hkey, rfl⟩ | ⟨old, hold, hclosed, rfl⟩
    · simp [PatternNode.ends_chain hkey, ends, hnone]
    · obtain ⟨grown, -, hsegment⟩ := h.shape old hold
      simp [PatternNode.mem_ends_extend grown hclosed, ends, hold, hsegment]
  refine ⟨_, hadd, by rw [h.kept], ?_, fun way => ?_, hall⟩
  · rintro extended ⟨⟩
    exact hshape
  · have hway : way ∈ root.ends ↔
        ∃ p ∈ patterns ++ [pattern], Pattern.parse p = .ok way := by
      rw [hends, h.mem_ends]
      simp [or_and_right, exists_or, hparse, eq_comm]
    exact hway

theorem Holding.observe (h : tree.Holding patterns) (path : List Char) :
    (tree.observe path).Holding patterns where
  kept := h.kept
  shape := by
    intro walked hwalked
    obtain ⟨root, hroot, rfl⟩ := Option.map_eq_some_iff.mp hwalked
    obtain ⟨grown, apart, hsegment⟩ := h.shape root hroot
    exact ⟨PatternNode.grown_walk grown [⟨_, 0⟩], PatternNode.apart_walk apart [⟨_, 0⟩],
      (PatternNode.segment_walk [⟨_, 0⟩] root).trans hsegment⟩
  mem_ends := by
    have hends : (tree.observe path).ends = tree.ends := by
      cases hroot : tree.root with
      | none => simp [ends, PatternTree.observe, hroot]
      | some root =>
        have hwalk : (PatternNode.observe (Path.fold path) 0 root).ends = root.ends :=
          PatternNode.ends_walk (h.shape root hroot).1 [⟨Path.fold path, 0⟩]
        simpa [ends, PatternTree.observe, hroot] using hwalk
    rw [hends]
    exact h.mem_ends
  accepted := h.accepted

/-- A pattern that is accepted has been added, and any other leaves the tree as it was. -/
theorem Holding.register (h : tree.Holding patterns) (pattern : List Char) :
    (∀ segments, Pattern.parse pattern = .ok segments → ∃ grown, tree.add pattern = .ok grown ∧
      tree.register pattern = ⟨grown, none⟩ ∧ grown.Holding (patterns ++ [pattern])) ∧
    ∀ fault, Pattern.parse pattern = .error fault → tree.add pattern = .error fault ∧
      tree.register pattern = ⟨tree, some (.refused fault)⟩ := by
  refine ⟨fun segments hparse => ?_, fun fault hparse => ?_⟩
  · obtain ⟨grown, hadd, hholding⟩ := h.add hparse
    exact ⟨grown, hadd, by rw [register_eq_add h.isGrown, hadd], hholding⟩
  · have hadd : tree.add pattern = .error fault := by rw [PatternTree.add, hparse]
    exact ⟨hadd, by rw [register_eq_add h.isGrown, hadd]⟩

theorem Holding.call (h : tree.Holding patterns) (c : TreeCall) :
    (tree.call c).Holding (patterns ++ PatternTree.accepted [c]) := by
  cases c with
  | observe path => simpa [PatternTree.call, PatternTree.accepted] using h.observe path
  | add pattern =>
    obtain ⟨haccepted, hrefused⟩ := h.register pattern
    cases hparse : Pattern.parse pattern with
    | error fault =>
      obtain ⟨-, hregister⟩ := hrefused fault hparse
      simpa [PatternTree.call, PatternTree.accepted, hparse, hregister, Except.toOption] using h
    | ok segments =>
      obtain ⟨grown, -, hregister, hholding⟩ := haccepted segments hparse
      simpa [PatternTree.call, PatternTree.accepted, hparse, hregister, Except.toOption]
        using hholding

theorem Holding.run (h : tree.Holding patterns) (calls : List TreeCall) :
    (calls.foldl PatternTree.call tree).Holding (patterns ++ PatternTree.accepted calls) := by
  induction calls generalizing tree patterns with
  | nil => simpa [PatternTree.accepted] using h
  | cons c calls ih =>
    have haccepted : PatternTree.accepted (c :: calls) =
        PatternTree.accepted [c] ++ PatternTree.accepted calls :=
      List.filterMap_append (l := [c])
    rw [List.foldl_cons, haccepted, ← List.append_assoc]
    exact ih (h.call c)

theorem holding_run (calls : List TreeCall) :
    (PatternTree.run calls).Holding (PatternTree.accepted calls) :=
  holding_empty.run calls

theorem Holding.merges (h : tree.Holding patterns) : tree.Merges patterns where
  kept := h.kept
  spelled := by
    have hspelling {way : List Segment} (hway : way ∈ tree.ends) :
        Pattern.spelling way ∈ patterns ∧ Pattern.parse (Pattern.spelling way) = .ok way := by
      obtain ⟨pattern, hpattern, hparse⟩ := (h.mem_ends way).mp hway
      obtain rfl := Pattern.spelling_of_parse hparse
      exact ⟨hpattern, hparse⟩
    have hnodup : tree.ends.Nodup := by
      rw [ends]
      cases hroot : tree.root with
      | none => exact List.nodup_nil
      | some root =>
        obtain ⟨grown, apart, -⟩ := h.shape root hroot
        exact PatternNode.nodup_ends grown apart
    -- Two ways to a dollar are never spelled alike, for each is read back from its spelling.
    have hinj : ∀ way ∈ tree.ends, ∀ way' ∈ tree.ends,
        Pattern.spelling way = Pattern.spelling way' → way = way' := by
      intro way hway way' hway' hsame
      have hparse := (hspelling hway).2
      rw [hsame, (hspelling hway').2] at hparse
      exact (Except.ok.inj hparse).symm
    refine (List.perm_ext_iff_of_nodup (hnodup.map_on hinj) (Text.nodup_eraseDups _)).mpr ?_
    intro pattern
    rw [List.mem_map, List.mem_eraseDups]
    constructor
    · rintro ⟨way, hway, rfl⟩
      exact (hspelling hway).1
    · intro hpattern
      obtain ⟨way, hparse⟩ := h.accepted pattern hpattern
      exact ⟨way, (h.mem_ends way).mpr ⟨pattern, hpattern, hparse⟩,
        Pattern.spelling_of_parse hparse⟩
  source := by
    rintro way node ⟨root, hroot, leads⟩
    obtain ⟨front, rfl, grown⟩ := leads.grown (h.shape root hroot).1
    exact ⟨by rw [grown.source_eq, List.nil_append, Pattern.spelling_concat], by simp⟩
  unique := by
    rintro way way' node node' ⟨root, hroot, leads⟩ ⟨root', hroot', leads'⟩ hsame
    obtain rfl := Option.some.inj (hroot.symm.trans hroot')
    exact leads.unique (h.shape root hroot).2.1 leads' hsame
  passed := by
    intro pattern segments hpattern hparse front hne hfront
    have hend := (h.mem_ends segments).mpr ⟨pattern, hpattern, hparse⟩
    rw [ends] at hend
    cases hroot : tree.root with
    | none => simp [hroot] at hend
    | some root =>
      rw [hroot, Option.elim_some] at hend
      obtain ⟨last, leads, -⟩ := (PatternNode.mem_ends_iff (h.shape root hroot).1).mp hend
      obtain ⟨node, hnode⟩ := leads.exists_of_prefix hne hfront
      exact ⟨node, root, hroot, hnode⟩
  shared := by
    rintro way node pattern segments ⟨root, hroot, leads⟩ - hparse hsources
    exact Pattern.prefix_of_map_source_prefix (leads.isProper (h.shape root hroot).1)
      (Pattern.isProper_of_parse hparse) hsources
  ended := by
    rintro way node ⟨root, hroot, leads⟩
    obtain ⟨front, -, grown⟩ := leads.grown (h.shape root hroot).1
    exact grown.dollar_or_above

end Calls

/-- Whatever calls have been made, the tree is the patterns that were accepted, and a further
pattern is either added to it or leaves it as it is. -/
theorem merges_run (calls : List TreeCall) :
    (run calls).Merges (accepted calls) ∧
      ∀ pattern,
        (∀ segments, Pattern.parse pattern = .ok segments → ∃ grown,
          (run calls).add pattern = .ok grown ∧ (run calls).register pattern = ⟨grown, none⟩) ∧
        ∀ fault, Pattern.parse pattern = .error fault → (run calls).add pattern = .error fault ∧
          (run calls).register pattern = ⟨run calls, some (.refused fault)⟩ := by
  have hholding := holding_run calls
  refine ⟨hholding.merges, fun pattern => ?_⟩
  obtain ⟨haccepted, hrefused⟩ := hholding.register pattern
  refine ⟨fun segments hparse => ?_, hrefused⟩
  obtain ⟨grown, hadd, hregister, -⟩ := haccepted segments hparse
  exact ⟨grown, hadd, hregister⟩

end PatternTree
end NextWord
