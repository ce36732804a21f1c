import NextWord.Proofs.Outcome
import NextWord.Proofs.Pattern.Segments

/-!
# The sources of the segments

Every reader of a key leaves behind what it does not take, so the sources of the segments of an
accepted key spell the key.
-/

namespace NextWord.Pattern

variable {text taken left : List Char} {s : Segment}

theorem append_takeGreed (text : List Char) : (takeGreed text).1 ++ (takeGreed text).2 = text := by
  cases text with
  | nil => rfl
  | cons c rest =>
    rw [takeGreed]
    split <;> rfl

theorem append_of_takeQuantifier {offset : Nat}
    (h : takeQuantifier offset text = .ok (taken, left)) : text = taken ++ left := by
  cases text with
  | nil =>
    obtain ⟨rfl, rfl⟩ := Prod.mk.inj (Except.ok.inj h)
    rfl
  | cons c rest =>
    rw [takeQuantifier] at h
    split at h
    · obtain ⟨rfl, rfl⟩ := Prod.mk.inj (Except.ok.inj h)
      rfl
    · split at h
      · dsimp only at h
        split at h
        · cases h
        · next close behind hclose =>
          split at h
          · obtain ⟨rfl, rfl⟩ := Prod.mk.inj (Except.ok.inj h)
            have hrest : rest = rest.takeWhile (· != '\x7d') ++ close :: behind := by
              rw [← hclose, List.takeWhile_append_dropWhile]
            simpa [append_takeGreed] using hrest
          · cases h
      · dsimp only at h
        obtain ⟨rfl, rfl⟩ := Prod.mk.inj (Except.ok.inj h)
        rw [List.cons_append, append_takeGreed]

theorem append_of_takeMembers? (h : takeMembers? text = some (taken, left)) :
    text = taken ++ left := by
  induction text using takeMembers?.induct generalizing taken with
  | case1 => cases h
  | case2 => cases h
  | case3 c rest ih =>
    obtain ⟨others, hothers, rfl⟩ := exists_of_map_append ['\\', c] h
    rw [ih hothers]
    rfl
  | case4 rest =>
    obtain ⟨rfl, rfl⟩ := Prod.mk.inj (Option.some.inj h)
    rfl
  | case5 c rest not_single not_escape hc ih =>
    rw [takeMembers?, if_neg hc] at h
    · obtain ⟨others, hothers, rfl⟩ := exists_of_map_append [c] h
      rw [ih hothers]
      rfl
    · assumption
    · assumption

theorem append_of_takeFirstMember? (h : takeFirstMember? text = some (taken, left)) :
    text = taken ++ left := by
  unfold takeFirstMember? at h
  split at h
  · obtain ⟨others, hothers, rfl⟩ := exists_of_map_append [']'] h
    rw [append_of_takeMembers? hothers]
    rfl
  · exact append_of_takeMembers? h

theorem append_of_takeClass? (h : takeClass? text = some (taken, left)) : text = taken ++ left := by
  unfold takeClass? at h
  split at h
  · obtain ⟨others, hothers, rfl⟩ := exists_of_map_append ['^'] h
    rw [append_of_takeFirstMember? hothers]
    rfl
  · exact append_of_takeFirstMember? h

theorem append_of_prepend {c : Char} {rest : List Char}
    {read : Except PatternFault (List Char × List Char)}
    (reads : ∀ others, read = .ok (others, left) → rest = others ++ left)
    (h : prepend c read = .ok (taken, left)) : c :: rest = taken ++ left := by
  cases read with
  | error fault => cases h
  | ok read =>
    obtain ⟨rfl, rfl⟩ := Prod.mk.inj (Except.ok.inj h)
    rw [reads _ rfl, List.cons_append]

theorem append_of_takeGroup {start skip offset : Nat}
    (h : takeGroup start skip offset text = .ok (taken, left)) : text = taken ++ left := by
  induction text generalizing skip offset taken with
  | nil =>
    rw [takeGroup] at h
    cases h
  | cons c rest ih =>
    cases skip with
    | succ skip => exact append_of_prepend (fun _ => ih) h
    | zero =>
      rw [takeGroup] at h
      split at h
      · exact append_of_prepend (fun _ => ih) h
      · split at h
        · split at h
          · exact append_of_prepend (fun _ => ih) h
          · cases h
        · split at h
          · cases h
          · split at h
            · cases h
            · split at h
              · obtain ⟨rfl, rfl⟩ := Prod.mk.inj (Except.ok.inj h)
                rfl
              · exact append_of_prepend (fun _ => ih) h

/-- A segment takes the first character, and leaves what it does not take. -/
theorem exists_of_takeSegment {offset : Nat} {c : Char} {rest : List Char}
    (h : takeSegment offset c rest = .ok (s, left)) :
    ∃ more, s.source = c :: more ∧ rest = more ++ left := by
  cases takes_of_takeSegment h with
  | escapedClass _ repeated =>
    rw [append_of_takeQuantifier repeated]
    exact ⟨_, rfl, rfl⟩
  | mark _ _ _ => exact ⟨_, rfl, rfl⟩
  | class_ isClass repeated =>
    rw [append_of_takeClass? isClass, append_of_takeQuantifier repeated]
    exact ⟨_, rfl, (List.append_assoc _ _ _).symm⟩
  | group isGroup _ => exact ⟨_, rfl, append_of_takeGroup isGroup⟩
  | plain _ => exact ⟨_, rfl, List.takeWhile_append_dropWhile.symm⟩

theorem spelling_cons (s : Segment) (segments : List Segment) :
    spelling (s :: segments) = s.source ++ spelling segments :=
  rfl

theorem spelling_append (segments others : List Segment) :
    spelling (segments ++ others) = spelling segments ++ spelling others :=
  List.flatMap_append

theorem spelling_concat (segments : List Segment) (s : Segment) :
    spelling (segments ++ [s]) = spelling segments ++ s.source := by
  rw [spelling_append, spelling_cons]
  exact congrArg _ (List.append_nil _)

/-- The fuel is enough, so nothing is left when the segments have been read. -/
theorem spelling_of_segmentsFrom {fuel offset : Nat} {segments : List Segment}
    (enough : text.length ≤ fuel) (h : segmentsFrom fuel offset text = .ok segments) :
    spelling segments = text := by
  induction fuel generalizing offset text segments with
  | zero =>
    obtain rfl := List.length_eq_zero_iff.mp (Nat.le_zero.mp enough)
    obtain rfl := Except.ok.inj h
    rfl
  | succ fuel ih =>
    cases text with
    | nil =>
      obtain rfl := Except.ok.inj h
      rfl
    | cons c rest =>
      rw [segmentsFrom] at h
      split at h
      · cases h
      · next s left hs =>
        split at h
        · cases h
        · next others hothers =>
          obtain rfl := Except.ok.inj h
          obtain ⟨more, hsource, rfl⟩ := exists_of_takeSegment hs
          have hlength : left.length ≤ fuel := by
            simp only [List.length_cons, List.length_append] at enough
            omega
          rw [spelling_cons, ih hlength hothers, hsource, List.cons_append]

theorem eq_of_body? {pattern body : List Char} (h : body? pattern = some body) :
    pattern = '^' :: (body ++ ['$']) := by
  unfold body? at h
  split at h
  · next rest =>
    split at h
    · next hlast =>
      obtain rfl := Option.some.inj h
      obtain ⟨body, rfl⟩ := List.getLast?_eq_some_iff.mp hlast
      rw [List.dropLast_concat]
    · cases h
  · cases h

/-- The segments of an accepted key spell it. -/
theorem spelling_of_parse {pattern : List Char} {segments : List Segment}
    (h : parse pattern = .ok segments) : spelling segments = pattern := by
  have hsplit := split_of_parse h
  rw [split] at hsplit
  split at hsplit
  · cases hsplit
  · next body hbody =>
    split at hsplit
    · cases hsplit
    · split at hsplit
      · cases hsplit
      · next inner hinner =>
        obtain rfl := Except.ok.inj hsplit
        rw [List.cons_append, spelling_cons, spelling_append,
          spelling_of_segmentsFrom (Nat.le_refl _) hinner]
        exact (eq_of_body? hbody).symm

end NextWord.Pattern
