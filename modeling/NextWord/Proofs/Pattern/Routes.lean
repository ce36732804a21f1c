import NextWord.Pattern.Tree
import NextWord.Proofs.Pattern.Segments

/-!
# Routes through the tree

A route leads from a node down to a dollar and lists the segments on the way with the texts that
their nodes remember. Adding a pattern to a tree that has seen no path adds the route of the pattern
and nothing else, however many nodes it shares with the routes that are there.
-/

namespace NextWord

/-- A segment on a route, and the texts its node remembers. -/
structure Stop where
  segment : Segment
  seen : List (List Char)
  deriving DecidableEq

namespace PatternNode

open Pattern (Closed)

/-- A node goes on to a dollar by way of these stops. -/
inductive Route : PatternNode → List Stop → Prop
  | finish {segment : Segment} {source : List Char} {seen : List (List Char)}
      {children : List PatternNode} (isDollar : segment.kind = .dollar) :
      Route (.mk segment source seen children) [⟨segment, seen⟩]
  | step {segment : Segment} {source : List Char} {seen : List (List Char)}
      {children : List PatternNode} {child : PatternNode} {more : List Stop}
      (not_dollar : segment.kind ≠ .dollar) (isChild : child ∈ children)
      (route : Route child more) :
      Route (.mk segment source seen children) (⟨segment, seen⟩ :: more)

/-- The shape of a node that patterns have grown behind a prefix: the source goes on from the
prefix, and only a dollar has nothing below it. -/
inductive Grown : List Char → PatternNode → Prop
  | finish {before : List Char} {seen : List (List Char)} :
      Grown before (.mk .dollar (before ++ Segment.dollar.source) seen [])
  | step {before : List Char} {segment : Segment} {seen : List (List Char)}
      {children : List PatternNode} (proper : segment.IsProper)
      (not_dollar : segment.kind ≠ .dollar) (goesOn : children ≠ [])
      (grown : ∀ child ∈ children, Grown (before ++ segment.source) child) :
      Grown before (.mk segment (before ++ segment.source) seen children)

inductive Unseen : PatternNode → Prop
  | mk {segment : Segment} {source : List Char} {children : List PatternNode}
      (unseen : ∀ child ∈ children, Unseen child) : Unseen (.mk segment source [] children)

def bare (segments : List Segment) : List Stop :=
  segments.map fun segment => ⟨segment, []⟩

theorem Grown.isProper {before : List Char} {node : PatternNode} (h : Grown before node) :
    node.segment.IsProper := by
  cases h with
  | finish => exact Segment.isProper_dollar
  | step proper _ _ _ => exact proper

/-- Every grown node leads to a dollar. -/
theorem Grown.exists_route {before : List Char} {node : PatternNode} (h : Grown before node) :
    ∃ stops, Route node stops := by
  induction h with
  | finish => exact ⟨_, .finish rfl⟩
  | @step before segment seen children proper not_dollar goesOn grown ih =>
    obtain ⟨child, hchild⟩ := List.exists_mem_of_ne_nil children goesOn
    obtain ⟨more, hmore⟩ := ih child hchild
    exact ⟨_, .step not_dollar hchild hmore⟩

theorem route_mk_iff {segment : Segment} {source : List Char} {seen : List (List Char)}
    {children : List PatternNode} {stops : List Stop} (not_dollar : segment.kind ≠ .dollar) :
    Route (.mk segment source seen children) stops ↔
      ∃ more, (∃ child ∈ children, Route child more) ∧ stops = ⟨segment, seen⟩ :: more := by
  constructor
  · intro h
    cases h with
    | finish isDollar => exact absurd isDollar not_dollar
    | step _ isChild route => exact ⟨_, ⟨_, isChild, route⟩, rfl⟩
  · rintro ⟨more, ⟨child, isChild, route⟩, rfl⟩
    exact .step not_dollar isChild route

section Chains

theorem segment_chain (before : List Char) (s : Segment) (more : List Segment) :
    (chain before s more).segment = s := by
  cases more <;> rfl

theorem grown_chain {before : List Char} {s : Segment} {more : List Segment}
    (h : Closed (s :: more)) : Grown before (chain before s more) := by
  induction more generalizing before s with
  | nil =>
    cases h with
    | finish => exact .finish
    | step _ _ closed => exact absurd rfl closed.ne_nil
  | cons next more ih =>
    cases h with
    | step proper not_dollar closed =>
      refine .step proper not_dollar (by simp) ?_
      intro child hchild
      obtain rfl := List.mem_singleton.mp hchild
      exact ih closed

theorem unseen_chain (before : List Char) (s : Segment) (more : List Segment) :
    Unseen (chain before s more) := by
  induction more generalizing before s with
  | nil => exact .mk (by simp)
  | cons next more ih =>
    refine .mk ?_
    intro child hchild
    obtain rfl := List.mem_singleton.mp hchild
    exact ih _ _

theorem route_chain {before : List Char} {s : Segment} {more : List Segment} {stops : List Stop}
    (h : Closed (s :: more)) : Route (chain before s more) stops ↔ stops = bare (s :: more) := by
  induction more generalizing before s stops with
  | nil =>
    cases h with
    | finish =>
      constructor
      · intro route
        cases route with
        | finish _ => rfl
        | step not_dollar _ _ => exact absurd rfl not_dollar
      · rintro rfl
        exact .finish rfl
    | step _ _ closed => exact absurd rfl closed.ne_nil
  | cons next more ih =>
    cases h with
    | step _ not_dollar closed =>
      rw [chain, route_mk_iff not_dollar]
      simp only [List.mem_singleton, exists_eq_left, ih closed]
      simp [bare]

end Chains

section Extension

theorem segment_extend (node : PatternNode) (more : List Segment) :
    (extend node more).segment = node.segment := by
  obtain ⟨segment, source, seen, children⟩ := node
  cases more <;> rfl

/-- A first pattern grows out of its caret as a chain. -/
theorem extend_leaf (before : List Char) (s : Segment) (more : List Segment) :
    extend (leaf before s) more = chain before s more := by
  cases more <;> rfl

/-- Segments go on below the child that stands for the first of them, and the other children stay;
if there is no such child, a chain joins them. -/
theorem extendAmong_cases (source : List Char) (children : List PatternNode) (next : Segment)
    (more : List Segment) :
    (∃ front child back, children = front ++ child :: back ∧ child.segment.source = next.source ∧
      extendAmong source children next more = front ++ extend child more :: back) ∨
    (∀ child ∈ children, child.segment.source ≠ next.source) ∧
      extendAmong source children next more = children ++ [chain source next more] := by
  induction children with
  | nil => exact .inr ⟨by simp, rfl⟩
  | cons child rest ih =>
    rw [extendAmong]
    by_cases hsame : child.segment.source = next.source
    · rw [if_pos hsame]
      exact .inl ⟨[], child, rest, rfl, hsame, rfl⟩
    · rw [if_neg hsame]
      rcases ih with ⟨front, found, back, rfl, hfound, hextend⟩ | ⟨hnew, hextend⟩
      · exact .inl ⟨child :: front, found, back, rfl, hfound, by rw [hextend]; rfl⟩
      · exact .inr ⟨List.forall_mem_cons.mpr ⟨hsame, hnew⟩, by rw [hextend]; rfl⟩

theorem extendAmong_ne_nil (source : List Char) (children : List PatternNode) (next : Segment)
    (more : List Segment) : extendAmong source children next more ≠ [] := by
  rcases extendAmong_cases source children next more with
    ⟨front, child, back, -, -, hextend⟩ | ⟨-, hextend⟩ <;> simp [hextend]

/-- What holds of all children still does if it holds of the one that goes on, or of the new one. -/
theorem forall_mem_extendAmong {P : PatternNode → Prop} {source : List Char}
    {children : List PatternNode} {next : Segment} {more : List Segment}
    (hall : ∀ child ∈ children, P child)
    (hshared : ∀ child ∈ children, child.segment.source = next.source → P (extend child more))
    (hnew : P (chain source next more)) :
    ∀ child ∈ extendAmong source children next more, P child := by
  intro other hother
  rcases extendAmong_cases source children next more with
    ⟨front, child, back, rfl, hsame, hextend⟩ | ⟨-, hextend⟩
  · rw [hextend, List.mem_append, List.mem_cons] at hother
    rcases hother with hother | rfl | hother
    · exact hall other (List.mem_append_left _ hother)
    · exact hshared child (by simp) hsame
    · exact hall other (List.mem_append_right _ (List.mem_cons_of_mem child hother))
  · rw [hextend, List.mem_append, List.mem_singleton] at hother
    rcases hother with hother | rfl
    · exact hall other hother
    · exact hnew

/-- In a grown tree the child that stands for a segment is the child of that very segment. -/
theorem extend_cases (segment : Segment) (seen : List (List Char)) {source : List Char}
    {children : List PatternNode} {next : Segment} {more : List Segment}
    (grown : ∀ child ∈ children, Grown source child) (h : Closed (next :: more)) :
    (∃ front child back, children = front ++ child :: back ∧ child.segment = next ∧
      extend (.mk segment source seen children) (next :: more) =
        .mk segment source seen (front ++ extend child more :: back)) ∨
    (∀ child ∈ children, child.segment.source ≠ next.source) ∧
      extend (.mk segment source seen children) (next :: more) =
        .mk segment source seen (children ++ [chain source next more]) := by
  rw [extend]
  rcases extendAmong_cases source children next more with
    ⟨front, child, back, rfl, hsame, hextend⟩ | ⟨hnew, hextend⟩
  · have hchild := grown child (by simp)
    exact .inl ⟨front, child, back, rfl, hchild.isProper.eq_of_source_eq h.head hsame,
      by rw [hextend]⟩
  · exact .inr ⟨hnew, by rw [hextend]⟩

theorem grown_extend {before : List Char} {node : PatternNode} {more : List Segment}
    (hnode : Grown before node) (h : Closed (node.segment :: more)) :
    Grown before (extend node more) := by
  induction more generalizing before node with
  | nil => rwa [extend]
  | cons next more ih =>
    cases hnode with
    | finish => exact absurd (h.eq_nil_of_dollar rfl) (by simp)
    | @step _ segment seen children proper not_dollar goesOn grown =>
      have hnext : Closed (next :: more) := h.tail not_dollar
      rw [extend]
      refine .step proper not_dollar (extendAmong_ne_nil _ _ _ _)
        (forall_mem_extendAmong grown ?_ (grown_chain hnext))
      intro child hchild hsame
      refine ih (grown child hchild) ?_
      rwa [(grown child hchild).isProper.eq_of_source_eq hnext.head hsame]

theorem unseen_extend {node : PatternNode} {more : List Segment} (hnode : Unseen node) :
    Unseen (extend node more) := by
  induction more generalizing node with
  | nil => rwa [extend]
  | cons next more ih =>
    cases hnode with
    | mk unseen =>
      rw [extend]
      exact .mk (forall_mem_extendAmong unseen (fun child hchild _ => ih (unseen child hchild))
        (unseen_chain _ next more))

/-- Adding a pattern adds its route and no other one. -/
theorem route_extend {before : List Char} {node : PatternNode} {more : List Segment}
    {stops : List Stop} (hnode : Grown before node) (hunseen : Unseen node)
    (h : Closed (node.segment :: more)) :
    Route (extend node more) stops ↔ Route node stops ∨ stops = bare (node.segment :: more) := by
  induction more generalizing before node stops with
  | nil =>
    -- The pattern ends here, at a dollar that stands for it already.
    cases hnode with
    | finish =>
      cases hunseen with
      | mk =>
        rw [extend]
        refine ⟨.inl, ?_⟩
        rintro (route | rfl)
        · exact route
        · exact .finish rfl
    | step _ not_dollar _ _ => exact absurd rfl (h.tail not_dollar).ne_nil
  | cons next more ih =>
    cases hnode with
    | finish => exact absurd (h.eq_nil_of_dollar rfl) (by simp)
    | @step _ here _ children _ not_dollar _ grown =>
      cases hunseen with
      | mk unseen =>
        have hnext : Closed (next :: more) := h.tail not_dollar
        rcases extend_cases here [] grown hnext with
          ⟨front, child, back, rfl, hchild, hextend⟩ | ⟨-, hextend⟩
        · -- The pattern goes on below a child that is there: only routes through it are added.
          have hroute (r : List Stop) : Route (extend child more) r ↔
              Route child r ∨ r = bare (next :: more) := by
            rw [← hchild]
            exact ih (grown child (by simp)) (unseen child (by simp)) (by rwa [hchild])
          have hbelow (r : List Stop) :
              (∃ other ∈ front ++ extend child more :: back, Route other r) ↔
                (∃ other ∈ front ++ child :: back, Route other r) ∨ r = bare (next :: more) := by
            simp only [List.mem_append, List.mem_cons, or_and_right, exists_or, exists_eq_left,
              hroute]
            grind
          rw [hextend, route_mk_iff not_dollar, route_mk_iff not_dollar]
          simp only [hbelow, or_and_right, exists_or, exists_eq_left]
          rfl
        · have hbelow (r : List Stop) :
              (∃ other ∈ children ++ [chain (before ++ here.source) next more], Route other r) ↔
                (∃ other ∈ children, Route other r) ∨ r = bare (next :: more) := by
            simp only [List.mem_append, List.mem_singleton, or_and_right, exists_or, exists_eq_left,
              route_chain hnext]
          rw [hextend, route_mk_iff not_dollar, route_mk_iff not_dollar]
          simp only [hbelow, or_and_right, exists_or, exists_eq_left]
          rfl

end Extension

end PatternNode

namespace PatternTree

open Pattern (Closed)
open PatternNode (Grown)

/-- A tree that patterns have grown out of a caret. -/
def IsGrown (tree : PatternTree) : Prop :=
  ∀ root ∈ tree.root, Grown [] root ∧ root.segment = .caret

/-- An accepted pattern goes on below the root that is there, or is the first and grows a root. -/
theorem exists_add {tree : PatternTree} (h : tree.IsGrown) {pattern : List Char}
    {more : List Segment} (accepted : Pattern.parse pattern = .ok (Segment.caret :: more)) :
    ∃ root, tree.add pattern = .ok ⟨some root, tree.patterns ++ [pattern]⟩ ∧
      ((tree.root = none ∧ Closed (Segment.caret :: more) ∧ root = .chain [] .caret more) ∨
        ∃ old, tree.root = some old ∧ Closed (old.segment :: more) ∧ root = old.extend more) := by
  have hkey : Closed (Segment.caret :: more) := by
    obtain ⟨_, heq, closed⟩ := Pattern.exists_closed_of_parse accepted
    rw [heq]
    exact .step Segment.isProper_caret (by decide) closed
  rw [add, accepted]
  cases hroot : tree.root with
  | none => exact ⟨_, rfl, .inl ⟨rfl, hkey, PatternNode.extend_leaf [] .caret more⟩⟩
  | some old =>
    have hclosed : Closed (old.segment :: more) := by rwa [(h old hroot).2]
    exact ⟨_, rfl, .inr ⟨old, rfl, hclosed, rfl⟩⟩

end PatternTree
end NextWord
