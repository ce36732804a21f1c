import NextWord.Pattern.Segment

/-!
# The segments of an accepted key

Nodes are shared by the source of their segment, so it matters that the source of a segment tells
all the rest of it. Besides, the dollar is the last segment of a key and stands nowhere else, which
is what makes the end of a key visible in the tree.
-/

namespace NextWord

namespace Segment

def ofSource : List Char → Segment
  | [] => plain []
  | c :: more =>
    if c = '\\' then
      match more with
      | [] => plain [c]
      | d :: _ =>
        if (Regex.classEscape? d).isSome then ⟨.charClass, c :: more, []⟩
        else ⟨.escapedMeta, c :: more, [d]⟩
    else if c = '[' then ⟨.charClass, c :: more, []⟩
    else if c = '(' then ⟨.capture, c :: more, []⟩
    else if c = '^' then caret
    else if c = '$' then dollar
    else plain (c :: more)

def IsProper (s : Segment) : Prop :=
  s = ofSource s.source

/-- Segments between the anchors of a key. A fixed one is written as the characters it stands for:
plain ones as they are, a mark behind a backslash. -/
structure IsInner (s : Segment) : Prop where
  proper : s.IsProper
  not_caret : s.kind ≠ .caret
  not_dollar : s.kind ≠ .dollar
  plain : s.kind = .literal → s.literal = s.source ∧ ∀ c ∈ s.source, Pattern.isPlain c = true
  mark : s.kind = .escapedMeta →
    ∃ c, s.source = ['\\', c] ∧ s.literal = [c] ∧ Text.isAlphanumeric c = false

theorem isProper_caret : caret.IsProper := rfl

theorem isProper_dollar : dollar.IsProper := rfl

theorem IsProper.eq_of_source_eq {s t : Segment} (hs : s.IsProper) (ht : t.IsProper)
    (h : s.source = t.source) : s = t := by
  rw [hs, ht, h]

/-- The caret stands for no text. -/
theorem IsProper.literal_eq_nil {s : Segment} (hs : s.IsProper) (h : s.kind = .caret) :
    s.literal = [] := by
  rw [IsProper] at hs
  rw [hs] at h ⊢
  revert h
  fun_cases ofSource s.source <;> simp_all [plain, caret, dollar]

end Segment

namespace Pattern

open Segment (IsInner)

/-- How a segment is taken off the front of a text, and what is left: a class or a mark behind a
backslash, a class in brackets, a group, or a run of plain characters. -/
inductive Takes (offset : Nat) : List Char → Segment → List Char → Prop
  | escapedClass {c : Char} {rest quantifier left : List Char}
      (isClass : (Regex.classEscape? c).isSome)
      (repeated : takeQuantifier (offset + 2) rest = .ok (quantifier, left)) :
      Takes offset ('\\' :: c :: rest) ⟨.charClass, '\\' :: c :: quantifier, []⟩ left
  | mark {c : Char} {left : List Char} (not_class : (Regex.classEscape? c).isSome = false)
      (isMark : Text.isAlphanumeric c = false) (unrepeated : left.head?.any isQuantifier = false) :
      Takes offset ('\\' :: c :: left) ⟨.escapedMeta, ['\\', c], [c]⟩ left
  | class_ {rest members behind quantifier left : List Char}
      (isClass : takeClass? rest = some (members, behind))
      (repeated : takeQuantifier (offset + 1 + members.length) behind = .ok (quantifier, left)) :
      Takes offset ('[' :: rest) ⟨.charClass, '[' :: members ++ quantifier, []⟩ left
  | group {rest taken left : List Char}
      (isGroup : takeGroup offset 0 (offset + 1) rest = .ok (taken, left))
      (unrepeated : left.head?.any isQuantifier = false) :
      Takes offset ('(' :: rest) ⟨.capture, '(' :: taken, []⟩ left
  | plain {c : Char} {rest : List Char} (isPlain : isPlain c = true) :
      Takes offset (c :: rest) (.plain (c :: rest.takeWhile Pattern.isPlain))
        (rest.dropWhile Pattern.isPlain)

theorem takes_of_takeEscape {offset : Nat} {text left : List Char} {s : Segment}
    (h : takeEscape offset text = .ok (s, left)) : Takes offset ('\\' :: text) s left := by
  cases text with
  | nil => cases h
  | cons c rest =>
    unfold takeEscape at h
    dsimp only at h
    split at h
    · next isClass =>
      split at h
      · next quantifier left repeated =>
        obtain ⟨rfl, rfl⟩ := Prod.mk.inj (Except.ok.inj h)
        exact .escapedClass isClass repeated
      · cases h
    · next not_class =>
      have not_class : (Regex.classEscape? c).isSome = false := by simpa using not_class
      split at h
      · cases h
      · next isMark =>
        have isMark : Text.isAlphanumeric c = false := by simpa using isMark
        split at h
        · split at h
          · cases h
          · next unrepeated =>
            obtain ⟨rfl, rfl⟩ := Prod.mk.inj (Except.ok.inj h)
            exact .mark not_class isMark (by simpa using unrepeated)
        · obtain ⟨rfl, rfl⟩ := Prod.mk.inj (Except.ok.inj h)
          exact .mark not_class isMark rfl

theorem takes_of_takeSegment {offset : Nat} {c : Char} {rest left : List Char} {s : Segment}
    (h : takeSegment offset c rest = .ok (s, left)) : Takes offset (c :: rest) s left := by
  rw [takeSegment] at h
  split at h
  · next hescape =>
    rw [hescape]
    exact takes_of_takeEscape h
  · next not_escape =>
    split at h
    · next hclass =>
      split at h
      · cases h
      · next members behind isClass =>
        split at h
        · next quantifier left repeated =>
          obtain ⟨rfl, rfl⟩ := Prod.mk.inj (Except.ok.inj h)
          rw [hclass]
          exact .class_ isClass repeated
        · cases h
    · next not_class =>
      split at h
      · next hgroup =>
        split at h
        · cases h
        · next taken left isGroup =>
          split at h
          · cases h
          · next unrepeated =>
            obtain ⟨rfl, rfl⟩ := Prod.mk.inj (Except.ok.inj h)
            rw [hgroup]
            exact .group isGroup (by simpa using unrepeated)
      · next not_group =>
        split at h
        · cases h
        · next not_dot =>
          split at h
          · cases h
          · next not_bar =>
            split at h
            · cases h
            · next not_anchor =>
              split at h
              · cases h
              · next not_quantifier =>
                obtain ⟨rfl, rfl⟩ := Prod.mk.inj (Except.ok.inj h)
                simp only [not_or] at not_anchor
                exact .plain (by simp [isPlain, not_escape, not_class, not_group, not_dot, not_bar,
                  not_anchor, not_quantifier])

theorem isInner_of_takeSegment {offset : Nat} {c : Char} {rest left : List Char} {s : Segment}
    (h : takeSegment offset c rest = .ok (s, left)) : s.IsInner := by
  cases takes_of_takeSegment h with
  | escapedClass isClass _ =>
    exact ⟨by simp [Segment.IsProper, Segment.ofSource, isClass], by simp, by simp, by simp,
      by simp⟩
  | mark not_class isMark _ =>
    exact ⟨by simp [Segment.IsProper, Segment.ofSource, not_class], by simp, by simp, by simp,
      fun _ => ⟨_, rfl, rfl, isMark⟩⟩
  | class_ _ _ => exact ⟨rfl, by simp, by simp, by simp, by simp⟩
  | group _ _ => exact ⟨rfl, by simp, by simp, by simp, by simp⟩
  | plain hplain =>
    refine ⟨?_, by simp [Segment.plain], by simp [Segment.plain], fun _ => ⟨rfl, ?_⟩,
      by simp [Segment.plain]⟩
    · simp [isPlain] at hplain
      simp [Segment.IsProper, Segment.ofSource, Segment.plain, hplain]
    · intro d hd
      rcases List.mem_cons.mp hd with rfl | hd
      · exact hplain
      · exact List.all_eq_true.mp List.all_takeWhile d hd

/-- What holds of every segment that is taken holds of all segments of a text. -/
theorem forall_mem_of_segmentsFrom {P : Segment → Prop}
    (taken : ∀ {offset c rest s left}, takeSegment offset c rest = .ok (s, left) → P s)
    {fuel offset : Nat} {text : List Char} {segments : List Segment}
    (h : segmentsFrom fuel offset text = .ok segments) : ∀ s ∈ segments, P s := by
  induction fuel generalizing offset text segments with
  | zero =>
    have hnil : segments = [] := by
      cases text <;> simpa [segmentsFrom, eq_comm] using h
    simp [hnil]
  | succ fuel ih =>
    cases text with
    | nil =>
      have hnil : segments = [] := by simpa [segmentsFrom, eq_comm] using h
      simp [hnil]
    | cons c rest =>
      rw [segmentsFrom] at h
      split at h
      · exact absurd h (by simp)
      · next first left hfirst =>
        split at h
        · exact absurd h (by simp)
        · next others hothers =>
          obtain rfl := Except.ok.inj h
          intro s hs
          rcases List.mem_cons.mp hs with rfl | hs
          · exact taken hfirst
          · exact ih hothers s hs

/-- Segments that go on to the end of a key, where the dollar stands. -/
inductive Closed : List Segment → Prop
  | finish : Closed [Segment.dollar]
  | step {s : Segment} {more : List Segment} (proper : s.IsProper) (not_dollar : s.kind ≠ .dollar)
      (closed : Closed more) : Closed (s :: more)

theorem closed_append_dollar {segments : List Segment} (h : ∀ s ∈ segments, s.IsInner) :
    Closed (segments ++ [Segment.dollar]) := by
  induction segments with
  | nil => exact .finish
  | cons s segments ih =>
    have hs := h s List.mem_cons_self
    exact .step hs.proper hs.not_dollar (ih fun t ht => h t (List.mem_cons_of_mem s ht))

theorem Closed.ne_nil {segments : List Segment} (h : Closed segments) : segments ≠ [] := by
  cases h <;> simp

theorem Closed.head {s : Segment} {more : List Segment} (h : Closed (s :: more)) : s.IsProper := by
  cases h with
  | finish => exact Segment.isProper_dollar
  | step proper _ _ => exact proper

theorem Closed.tail {s : Segment} {more : List Segment} (h : Closed (s :: more))
    (hs : s.kind ≠ .dollar) : Closed more := by
  cases h with
  | finish => exact absurd rfl hs
  | step _ _ closed => exact closed

theorem Closed.eq_nil_of_dollar {s : Segment} {more : List Segment} (h : Closed (s :: more))
    (hs : s.kind = .dollar) : more = [] := by
  cases h with
  | finish => rfl
  | step _ not_dollar _ => exact absurd hs not_dollar

/-- The shape of an accepted key. -/
theorem split_of_parse {pattern : List Char} {segments : List Segment}
    (h : parse pattern = .ok segments) : split pattern = .ok segments := by
  rw [parse] at h
  split at h
  · exact absurd h (by simp)
  · next hsplit =>
    split at h
    · exact absurd h (by simp)
    · rw [hsplit, h]

/-- Whatever an accepted key spells up to the end of a segment compiles. -/
theorem checkPrefixes_of_parse {pattern : List Char} {segments : List Segment}
    (h : parse pattern = .ok segments) : checkPrefixes [] segments = .ok () := by
  rw [parse] at h
  split at h
  · cases h
  · split at h
    · cases h
    · next hcheck =>
      obtain rfl := Except.ok.inj h
      exact hcheck

/-- An accepted key has its segments between the anchors. -/
theorem exists_between_anchors {P : Segment → Prop}
    (taken : ∀ {offset c rest s left}, takeSegment offset c rest = .ok (s, left) → P s)
    {pattern : List Char} {segments : List Segment} (h : parse pattern = .ok segments) :
    ∃ inner, segments = Segment.caret :: inner ++ [Segment.dollar] ∧ ∀ s ∈ inner, P s := by
  have hsplit := split_of_parse h
  rw [split] at hsplit
  split at hsplit
  · exact absurd hsplit (by simp)
  · split at hsplit
    · exact absurd hsplit (by simp)
    · split at hsplit
      · exact absurd hsplit (by simp)
      · next inner hinner =>
        exact ⟨inner, (Except.ok.inj hsplit).symm, forall_mem_of_segmentsFrom taken hinner⟩

theorem exists_inner_of_parse {pattern : List Char} {segments : List Segment}
    (h : parse pattern = .ok segments) :
    ∃ inner, segments = Segment.caret :: inner ++ [Segment.dollar] ∧ ∀ s ∈ inner, s.IsInner :=
  exists_between_anchors isInner_of_takeSegment h

theorem isInner_of_parse {pattern : List Char} {inner : List Segment}
    (h : parse pattern = .ok (Segment.caret :: inner ++ [Segment.dollar])) :
    ∀ s ∈ inner, s.IsInner := by
  obtain ⟨_, heq, inners⟩ := exists_inner_of_parse h
  obtain rfl := List.append_cancel_right (List.cons.inj heq).2
  exact inners

/-- An accepted key starts with the caret, and what follows goes on to the dollar. -/
theorem exists_closed_of_parse {pattern : List Char} {segments : List Segment}
    (h : parse pattern = .ok segments) :
    ∃ more, segments = Segment.caret :: more ∧ Closed more := by
  obtain ⟨inner, rfl, hinner⟩ := exists_inner_of_parse h
  exact ⟨inner ++ [Segment.dollar], rfl, closed_append_dollar hinner⟩

end Pattern
end NextWord
