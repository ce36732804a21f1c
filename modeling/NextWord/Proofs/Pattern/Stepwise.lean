import NextWord.Proofs.Pattern.Routes

/-!
# Adding a pattern node by node

A tree is changed while a pattern is being added: each new node compiles its own prefix and hangs in
the tree before the one below it is made, and the pattern counts only when all of them are there. A
prefix that did not compile would stop the growth half way and leave a stump behind.

Main statement: it never does. The pattern was refused before the tree was touched, or each prefix
that a node compiles has been compiled with the pattern, whichever of the nodes were there already.
-/

namespace NextWord

/-- What has grown, and what stopped the growth if it was stopped. -/
structure Growth (α : Type) where
  grown : α
  fault : Option Regex.Fault := none

def Growth.map {α β : Type} (f : α → β) (growth : Growth α) : Growth β :=
  ⟨f growth.grown, growth.fault⟩

/-- Why a pattern was not added: it was refused, or the prefix of a node did not compile. -/
inductive RegisterFault
  | refused (fault : PatternFault)
  | unmade (fault : Regex.Fault)
  deriving DecidableEq, Repr

/-- The tree as it stands when a pattern has been added, or has failed to be. -/
structure Registration where
  tree : PatternTree
  fault : Option RegisterFault := none

namespace PatternNode

/-- The nodes that are made for segments behind a prefix, each below the one before. -/
def sprout (before : List Char) : List Segment → Growth (List PatternNode)
  | [] => ⟨[], none⟩
  | next :: more =>
    let source := before ++ next.source
    match Regex.parse source with
    | .error fault => ⟨[], some fault⟩
    | .ok _ => (sprout source more).map fun below => [.mk next source [] below]

mutual

/-- Goes down from a node along segments, and makes the nodes that are not there. -/
def grow : PatternNode → List Segment → Growth PatternNode
  | node, [] => ⟨node, none⟩
  | .mk segment source seen children, next :: more =>
    (growAmong source children next more).map (.mk segment source seen)

def growAmong (source : List Char) : List PatternNode → Segment → List Segment →
    Growth (List PatternNode)
  | [], next, more => sprout source (next :: more)
  | child :: rest, next, more =>
    if child.segment.source = next.source then (grow child more).map (· :: rest)
    else (growAmong source rest next more).map (child :: ·)

end

end PatternNode

namespace PatternTree

/-- The root that a pattern goes down from; the first pattern makes it. -/
def rootFor (tree : PatternTree) (first : Segment) : Except Regex.Fault PatternNode :=
  match tree.root with
  | some root => .ok root
  | none => (Regex.parse first.source).map fun _ => .leaf [] first

def register (tree : PatternTree) (pattern : List Char) : Registration :=
  match Pattern.parse pattern with
  | .error fault => ⟨tree, some (.refused fault)⟩
  | .ok [] => ⟨tree, none⟩
  | .ok (first :: more) =>
    match tree.rootFor first with
    | .error fault => ⟨tree, some (.unmade fault)⟩
    | .ok root =>
      match root.grow more with
      | ⟨grown, some fault⟩ => ⟨{ tree with root := grown }, some (.unmade fault)⟩
      | ⟨grown, none⟩ => ⟨⟨grown, tree.patterns ++ [pattern]⟩, none⟩

end PatternTree

namespace Pattern

theorem checkPrefixes_cons {before : List Char} {s : Segment} {more : List Segment}
    (h : checkPrefixes before (s :: more) = .ok ()) :
    (∃ expression, Regex.parse (before ++ s.source) = .ok expression) ∧
      checkPrefixes (before ++ s.source) more = .ok () := by
  rw [checkPrefixes] at h
  split at h
  · next expression hparse => exact ⟨⟨expression, hparse⟩, h⟩
  · cases h
  · cases h

end Pattern

namespace PatternNode

open Pattern (Closed checkPrefixes checkPrefixes_cons)

/-- Prefixes that were compiled before compile again, so that the chain is made whole. -/
theorem sprout_eq_chain {before : List Char} {next : Segment} {more : List Segment}
    (h : checkPrefixes before (next :: more) = .ok ()) :
    sprout before (next :: more) = ⟨[chain before next more], none⟩ := by
  induction more generalizing before next with
  | nil =>
    obtain ⟨⟨expression, hparse⟩, -⟩ := checkPrefixes_cons h
    simp only [sprout, hparse]
    rfl
  | cons following more ih =>
    obtain ⟨⟨expression, hparse⟩, hmore⟩ := checkPrefixes_cons h
    rw [sprout]
    simp only [hparse, ih hmore]
    rfl

theorem Grown.source_eq {before : List Char} {node : PatternNode} (h : Grown before node) :
    node.source = before ++ node.segment.source := by
  cases h <;> rfl

theorem Grown.of_mem_children {before : List Char} {node child : PatternNode}
    (h : Grown before node) (isChild : child ∈ node.children) : Grown node.source child := by
  cases h with
  | finish => exact absurd isChild List.not_mem_nil
  | step _ _ _ grown => exact grown child isChild

/-- The prefix of a node that is shared is the prefix that the new pattern has there, so what is
checked below it is what was compiled with the pattern. -/
theorem grow_eq_extend {node : PatternNode} {more : List Segment}
    (hchildren : ∀ child ∈ node.children, Grown node.source child)
    (h : checkPrefixes node.source more = .ok ()) : grow node more = ⟨extend node more, none⟩ := by
  induction more generalizing node with
  | nil => rw [grow, extend]
  | cons next more ih =>
    obtain ⟨segment, source, seen, children⟩ := node
    simp only [PatternNode.source, PatternNode.children] at h hchildren
    have hamong : growAmong source children next more =
        ⟨extendAmong source children next more, none⟩ := by
      induction children with
      | nil => rw [growAmong, extendAmong, sprout_eq_chain h]
      | cons child rest ihrest =>
        have hchild := hchildren child List.mem_cons_self
        rw [growAmong, extendAmong]
        by_cases hsame : child.segment.source = next.source
        · have hbelow : checkPrefixes child.source more = .ok () := by
            rw [hchild.source_eq, hsame]
            exact (checkPrefixes_cons h).2
          rw [if_pos hsame, if_pos hsame, ih (fun _ => hchild.of_mem_children) hbelow]
          rfl
        · have hrest := ihrest fun other hother => hchildren other (List.mem_cons_of_mem child hother)
          rw [if_neg hsame, if_neg hsame, hrest]
          rfl
    rw [grow, extend, hamong]
    rfl

end PatternNode

namespace PatternTree

/-- Adding node by node comes to what adding at once comes to, and a refused pattern leaves the tree
as it was. No prefix fails once the tree has been touched. -/
theorem register_eq_add {tree : PatternTree} (hgrown : tree.IsGrown) (pattern : List Char) :
    tree.register pattern =
      match tree.add pattern with
      | .ok grown => ⟨grown, none⟩
      | .error fault => ⟨tree, some (.refused fault)⟩ := by
  rw [register, add]
  cases hparse : Pattern.parse pattern with
  | error fault => rfl
  | ok segments =>
    obtain ⟨more, rfl, hclosed⟩ := Pattern.exists_closed_of_parse hparse
    obtain ⟨⟨expression, hcaret⟩, hmore⟩ :=
      Pattern.checkPrefixes_cons (Pattern.checkPrefixes_of_parse hparse)
    cases hroot : tree.root with
    | none =>
      have hleaf : (PatternNode.leaf [] .caret).grow more =
          ⟨(PatternNode.leaf [] .caret).extend more, none⟩ :=
        PatternNode.grow_eq_extend (fun _ h => absurd h List.not_mem_nil) hmore
      rw [List.nil_append] at hcaret
      simp [rootFor, hroot, hcaret, hleaf, Except.map]
    | some root =>
      obtain ⟨grown, hsegment⟩ := hgrown root hroot
      have hprefixes : Pattern.checkPrefixes root.source more = .ok () := by
        rw [grown.source_eq, hsegment]
        exact hmore
      have hextend := PatternNode.grow_eq_extend (fun _ => grown.of_mem_children) hprefixes
      simp [rootFor, hroot, hextend]

end PatternTree
end NextWord
