import Mathlib.Data.List.Forall2
import NextWord.Proofs.Pattern.Completions
import NextWord.Proofs.Pattern.Merging

/-!
# Observing paths in any order

What a path shows to a node is decided by the folded path and the segments on the way to the node,
so the texts that a node remembers are those from before and those that the observed paths show it.
Neither the order of the paths nor their repetition matters, except for the order in which texts are
remembered; and a path whose folded form has been observed shows nothing new to any node.
-/

namespace NextWord

/-- What a visit shows to the node at the end of a way: the prefixes on the way all take something
of the path, and the last of them this text beyond what the one before it took. -/
def Visit.shown? : List Char → List Segment → Visit → Option (List Char)
  | _, [], _ => none
  | before, [s], v => v.slice? (before ++ s.source)
  | before, s :: next :: more, v =>
    (v.goOn? (before ++ s.source)).bind (shown? (before ++ s.source) (next :: more))

namespace PatternNode

/-- Induction on a node, with a hypothesis for each of its children. -/
@[induction_eliminator]
theorem induct {motive : PatternNode → Prop}
    (mk : ∀ segment source seen children, (∀ child ∈ children, motive child) →
      motive (.mk segment source seen children))
    (node : PatternNode) : motive node :=
  @PatternNode.rec motive (fun children => ∀ child ∈ children, motive child) mk
    (fun _ h => absurd h List.not_mem_nil)
    (fun _ _ hfirst hrest child h =>
      (List.mem_cons.mp h).elim (fun heq => heq ▸ hfirst) (hrest child)) node

/-- Nodes that differ in the order of the texts they remember, and in nothing else. -/
inductive Alike : PatternNode → PatternNode → Prop
  | mk {segment : Segment} {source : List Char} {seen seen' : List (List Char)}
      {children children' : List PatternNode} (remembered : ∀ text, text ∈ seen ↔ text ∈ seen')
      (below : List.Forall₂ Alike children children') :
      Alike (.mk segment source seen children) (.mk segment source seen' children')

section Remembering

theorem foldl_remember_of_mem {texts seen : List (List Char)} (h : ∀ text ∈ texts, text ∈ seen) :
    texts.foldl remember seen = seen := by
  induction texts with
  | nil => rfl
  | cons text texts ih =>
    have hknown : seen.contains text = true := by simpa using h text List.mem_cons_self
    have hrest : texts.foldl remember seen = seen :=
      ih fun other hother => h other (List.mem_cons_of_mem text hother)
    rw [List.foldl_cons, remember, if_pos hknown, hrest]

theorem mem_offered_congr {values values' options options' : List (List Char)}
    (hvalues : ∀ value, value ∈ values ↔ value ∈ values')
    (hoptions : ∀ option, option ∈ options ↔ option ∈ options') (text : List Char) :
    text ∈ offered values options ↔ text ∈ offered values' options' := by
  have hnone : values = [] ↔ values' = [] := by
    rw [List.eq_nil_iff_forall_not_mem, List.eq_nil_iff_forall_not_mem]
    exact forall_congr' fun value => not_congr (hvalues value)
  rw [mem_offered, mem_offered, hnone]
  simp only [hvalues, hoptions]

end Remembering

section Walks

variable {visits others : List Visit}

/-- Visits that are the same up to order and repetition come through a node alike. -/
theorem mem_filterMap_congr {α : Type} (f : Visit → Option α)
    (same : ∀ v, v ∈ visits ↔ v ∈ others) (a : α) :
    a ∈ visits.filterMap f ↔ a ∈ others.filterMap f := by
  simp only [List.mem_filterMap, same]

theorem alike_walk (same : ∀ v, v ∈ visits ↔ v ∈ others) (node : PatternNode) :
    Alike (walk visits node) (walk others node) := by
  induction node generalizing visits others with
  | mk segment source seen children ih =>
    have hvisits := mem_filterMap_congr (Visit.goOn? source) same
    rw [walk_mk, walk_mk]
    refine .mk (fun text => ?_) ?_
    · rw [mem_foldl_remember, mem_foldl_remember,
        mem_filterMap_congr (Visit.slice? source) same]
    · rw [List.forall₂_map_left_iff, List.forall₂_map_right_iff, List.forall₂_same]
      intro child hchild
      exact ih child hchild hvisits

/-- A visit that has been there before changes nothing. -/
theorem walk_concat_of_mem {v : Visit} (h : v ∈ visits) (node : PatternNode) :
    walk (visits ++ [v]) node = walk visits node := by
  induction node generalizing visits v with
  | mk segment source seen children ih =>
    have hseen : ((visits ++ [v]).filterMap (Visit.slice? source)).foldl remember seen =
        (visits.filterMap (Visit.slice? source)).foldl remember seen := by
      rw [List.filterMap_append, List.foldl_append]
      apply foldl_remember_of_mem
      intro text htext
      obtain ⟨w, hw, hslice⟩ := List.mem_filterMap.mp htext
      obtain rfl := List.mem_singleton.mp hw
      exact mem_foldl_remember.mpr (.inr (List.mem_filterMap.mpr ⟨w, h, hslice⟩))
    have hbelow : ∀ child ∈ children,
        walk ((visits ++ [v]).filterMap (Visit.goOn? source)) child =
          walk (visits.filterMap (Visit.goOn? source)) child := by
      intro child hchild
      rw [List.filterMap_append]
      cases hgoOn : v.goOn? source with
      | none => simp [hgoOn]
      | some next =>
        have hnext : next ∈ visits.filterMap (Visit.goOn? source) :=
          List.mem_filterMap.mpr ⟨v, h, hgoOn⟩
        simpa [hgoOn] using ih child hchild hnext
    rw [walk_mk, walk_mk, hseen, List.map_congr_left hbelow]

/-- A node of a walked tree remembers what it did before, and what the visits show it. -/
theorem exists_seen_of_leads_walk {before : List Char} {node last : PatternNode}
    {way : List Segment} (grown : Grown before node) (h : Leads (walk visits node) way last) :
    ∃ old, Leads node way old ∧
      last.seen = (visits.filterMap (Visit.shown? before way)).foldl remember old.seen := by
  induction grown generalizing visits way with
  | finish =>
    rw [walk_mk] at h
    cases h with
    | here => exact ⟨_, .here, rfl⟩
    | step isChild _ => exact absurd isChild List.not_mem_nil
  | @step before segment seen children _ _ _ grown ih =>
    rw [walk_mk] at h
    cases h with
    | here => exact ⟨_, .here, rfl⟩
    | @step _ _ _ _ walked _ more isChild leads =>
      obtain ⟨child, hchild, rfl⟩ := List.mem_map.mp isChild
      obtain ⟨old, hold, hseen⟩ := ih child hchild leads
      obtain ⟨rest, rfl⟩ := hold.exists_cons
      refine ⟨old, .step hchild hold, ?_⟩
      rw [hseen, List.filterMap_filterMap]
      rfl

end Walks

theorem mem_completionsAll_congr {children children' : List PatternNode}
    (h : List.Forall₂ (fun child child' => ∀ text,
      text ∈ completions child ↔ text ∈ completions child') children children')
    (text : List Char) : text ∈ completionsAll children ↔ text ∈ completionsAll children' := by
  induction h with
  | nil => rfl
  | cons hfirst _ ih =>
    rw [completionsAll, completionsAll, List.mem_append, List.mem_append, hfirst, ih]

/-- The order in which texts are remembered decides on the order of the completions only. -/
theorem Alike.mem_completions {node other : PatternNode} (h : Alike node other)
    (text : List Char) : text ∈ completions node ↔ text ∈ completions other := by
  induction node generalizing other text with
  | mk segment source seen children ih =>
    cases h with
    | @mk _ _ _ seen' _ children' remembered below =>
      have hchildren : List.Forall₂ (fun child child' => ∀ text,
          text ∈ completions child ↔ text ∈ completions child') children children' :=
        ((List.forall₂_and_left _ _).mpr ⟨ih, below⟩).imp
          fun child child' hchild text => hchild.1 hchild.2 text
      have hbelow := mem_completionsAll_congr hchildren
      have hvalues (value : List Char) : value ∈ seen.filter (· ≠ []) ↔
          value ∈ seen'.filter (· ≠ []) := by
        rw [List.mem_filter, List.mem_filter, remembered]
      have hwritten (text : List Char) :
          text ∈ (completionsAll children).map (segment.literal ++ ·) ↔
            text ∈ (completionsAll children').map (segment.literal ++ ·) := by
        simp only [List.mem_map, hbelow]
      rw [completions, completions]
      cases segment.kind with
      | dollar => rfl
      | caret => exact hbelow text
      | literal => exact hwritten text
      | escapedMeta => exact hwritten text
      | charClass => exact mem_offered_congr hvalues hbelow text
      | capture => exact mem_offered_congr hvalues hbelow text

end PatternNode

namespace PatternTree

open PatternNode (walk)

/-- Trees that differ in the order of the texts that their nodes remember, and in nothing else. -/
structure Alike (tree other : PatternTree) : Prop where
  patterns : tree.patterns = other.patterns
  root : Option.Rel PatternNode.Alike tree.root other.root

theorem patterns_observeAll (tree : PatternTree) (paths : List (List Char)) :
    (tree.observeAll paths).patterns = tree.patterns := by
  induction paths generalizing tree with
  | nil => rfl
  | cons path paths ih => exact ih (tree.observe path)

theorem observeAll_eq (tree : PatternTree) (paths : List (List Char)) :
    tree.observeAll paths = ⟨tree.root.map (walk (Visit.ofPaths paths)), tree.patterns⟩ := by
  rw [← root_observeAll, ← patterns_observeAll tree paths]

theorem observeAll_concat (tree : PatternTree) (paths : List (List Char)) (path : List Char) :
    tree.observeAll (paths ++ [path]) = (tree.observeAll paths).observe path :=
  List.foldl_concat _ _ _ _

theorem mem_ofPaths {paths : List (List Char)} {v : Visit} :
    v ∈ Visit.ofPaths paths ↔ ∃ folded ∈ paths.map Path.fold, v = ⟨folded, 0⟩ := by
  simp [Visit.ofPaths, eq_comm]

theorem alike_observeAll (tree : PatternTree) {paths others : List (List Char)}
    (same : ∀ folded, folded ∈ paths.map Path.fold ↔ folded ∈ others.map Path.fold) :
    (tree.observeAll paths).Alike (tree.observeAll others) := by
  have hvisits (v : Visit) : v ∈ Visit.ofPaths paths ↔ v ∈ Visit.ofPaths others := by
    simp only [mem_ofPaths, same]
  refine ⟨by rw [patterns_observeAll, patterns_observeAll], ?_⟩
  rw [root_observeAll, root_observeAll]
  cases tree.root with
  | none => exact .none
  | some root => exact .some (PatternNode.alike_walk hvisits root)

theorem Alike.mem_completions {tree other : PatternTree} (h : tree.Alike other)
    (text : List Char) : text ∈ tree.completions ↔ text ∈ other.completions := by
  obtain ⟨root, known⟩ := tree
  obtain ⟨root', known'⟩ := other
  rw [PatternTree.mem_completions, PatternTree.mem_completions]
  cases h.root with
  | none => rfl
  | some halike => simpa using halike.mem_completions text

theorem observe_of_mem (tree : PatternTree) {paths : List (List Char)} {path : List Char}
    (h : Path.fold path ∈ paths.map Path.fold) :
    (tree.observeAll paths).observe path = tree.observeAll paths := by
  have hvisit : ⟨Path.fold path, 0⟩ ∈ Visit.ofPaths paths := mem_ofPaths.mpr ⟨_, h, rfl⟩
  have hsplit : Visit.ofPaths (paths ++ [path]) =
      Visit.ofPaths paths ++ [⟨Path.fold path, 0⟩] := List.map_append
  rw [← observeAll_concat, observeAll_eq, observeAll_eq, hsplit,
    funext (PatternNode.walk_concat_of_mem hvisit)]

/-- What the nodes of a tree remember of paths is what the folded paths show them. So two lists of
paths that fold to the same paths leave trees alike, with the same completions, and a path that
folds to an observed one leaves the tree exactly as it is. -/
theorem observeAll_depends_on_folded (calls : List TreeCall) (paths : List (List Char)) :
    (∀ way node, ((run calls).observeAll paths).Leads way node →
      ∃ old, (run calls).Leads way old ∧ ∀ text, text ∈ node.seen ↔
        text ∈ old.seen ∨ ∃ folded ∈ paths.map Path.fold,
          Visit.shown? [] way ⟨folded, 0⟩ = some text) ∧
    (∀ others : List (List Char),
      (∀ folded, folded ∈ paths.map Path.fold ↔ folded ∈ others.map Path.fold) →
        ((run calls).observeAll paths).Alike ((run calls).observeAll others) ∧
        ∀ text, text ∈ ((run calls).observeAll paths).completions ↔
          text ∈ ((run calls).observeAll others).completions) ∧
    ∀ path, Path.fold path ∈ paths.map Path.fold →
      ((run calls).observeAll paths).observe path = (run calls).observeAll paths := by
  refine ⟨?_, ?_, ?_⟩
  · rintro way node ⟨walked, hwalked, leads⟩
    rw [root_observeAll] at hwalked
    obtain ⟨root, hroot, rfl⟩ := Option.map_eq_some_iff.mp hwalked
    have hgrown := ((holding_run calls).shape root hroot).1
    obtain ⟨old, hold, hseen⟩ := PatternNode.exists_seen_of_leads_walk hgrown leads
    refine ⟨old, ⟨root, hroot, hold⟩, fun text => ?_⟩
    rw [hseen, PatternNode.mem_foldl_remember, List.mem_filterMap]
    simp [mem_ofPaths]
  · intro others same
    have halike := alike_observeAll (run calls) same
    exact ⟨halike, halike.mem_completions⟩
  · intro path hpath
    exact observe_of_mem (run calls) hpath

/-- Two of three names are shown again, in another order and at other indices; the third one is
remembered from before the last pattern came. -/
theorem observeAll_depends_on_folded_shelves :
    let size := "^([a-z]+)\\[n\\]\\.size$".toList
    let calls : List TreeCall := [.add size, .observe "lids[4].size".toList,
      .add "^([a-z]+)\\[n\\]\\.name$".toList]
    let paths := ["bins[0].size".toList, "racks[1].size".toList, "bins[2].size".toList]
    let others := ["racks[7].size".toList, "bins[0].size".toList]
    let name : List Segment := [.caret, ⟨.capture, "([a-z]+)".toList, []⟩]
    (∃ node, ((run calls).observeAll paths).Leads name node ∧ "racks".toList ∈ node.seen) ∧
      (∀ folded, folded ∈ paths.map Path.fold ↔ folded ∈ others.map Path.fold) ∧
      ((run calls).observeAll paths).Alike ((run calls).observeAll others) ∧
      (∀ text, text ∈ ((run calls).observeAll paths).completions ↔
        text ∈ ((run calls).observeAll others).completions) ∧
      Path.fold "bins[9].size".toList ∈ paths.map Path.fold ∧
      ((run calls).observeAll paths).observe "bins[9].size".toList =
        (run calls).observeAll paths := by
  intro size calls paths others name
  have hpaths : paths.map Path.fold =
      ["bins[n].size".toList, "racks[n].size".toList, "bins[n].size".toList] := by
    decide +kernel
  have hothers : others.map Path.fold = ["racks[n].size".toList, "bins[n].size".toList] := by
    decide +kernel
  have same : ∀ folded, folded ∈ paths.map Path.fold ↔ folded ∈ others.map Path.fold := by
    intro folded
    rw [hpaths, hothers]
    simp [or_comm]
  have hagain : Path.fold "bins[9].size".toList ∈ paths.map Path.fold := by decide +kernel
  obtain ⟨hnodes, hsame, hobserved⟩ := observeAll_depends_on_folded calls paths
  obtain ⟨halike, hcompletions⟩ := hsame others same
  refine ⟨?_, same, halike, hcompletions, hagain, hobserved _ hagain⟩
  obtain ⟨segments, hparse, hname⟩ : ∃ segments, Pattern.parse size = .ok segments ∧
      name <+: segments := by
    have hstart : (Pattern.parse size).toOption.map name.isPrefixOf = some true := by
      decide +kernel
    obtain ⟨segments, hsegments, hprefix⟩ := Option.map_eq_some_iff.mp hstart
    exact ⟨segments, eq_ok_of_toOption_eq_some hsegments, List.isPrefixOf_iff_prefix.mp hprefix⟩
  have hmerges : ((run calls).observeAll paths).Merges
      (accepted (calls ++ paths.map TreeCall.observe)) :=
    (holding_run (calls ++ paths.map TreeCall.observe)).merges
  have haccepted : size ∈ accepted (calls ++ paths.map TreeCall.observe) := by decide +kernel
  obtain ⟨node, hnode⟩ := hmerges.passed haccepted hparse (List.cons_ne_nil _ _) hname
  obtain ⟨old, -, hseen⟩ := hnodes name node hnode
  refine ⟨node, hnode, (hseen _).mpr (.inr ⟨"racks[n].size".toList, ?_, ?_⟩)⟩
  · rw [hpaths]
    simp
  · decide +kernel

end PatternTree
end NextWord
