import NextWord.Proofs.Pattern.FlatItems
import NextWord.Proofs.Regex.AddedDollar

/-!
# The keys that are accepted

A key is accepted exactly if it writes a sequence of items between its anchors and everything in
front of the dollar compiles, segment by segment. Its segments are then the items in order, adjacent
plain characters being joined into one, and they spell the key. What is not accepted is refused with
a fault of the key, unless one of its repetitions asks for more rounds than can be counted.
-/

namespace NextWord.Pattern

section Joining

/-- Segments that may stand side by side: not both of them are literal. -/
def Apart (s t : Segment) : Prop :=
  s.kind = .literal → t.kind ≠ .literal

/-- Puts a segment in front of others; two literal ones become one. -/
def attach (s : Segment) : List Segment → List Segment
  | [] => [s]
  | t :: more =>
    if s.kind = .literal ∧ t.kind = .literal then Segment.plain (s.source ++ t.source) :: more
    else s :: t :: more

/-- The segments of items, each run of plain characters being one. -/
def joined (items : List Item) : List Segment :=
  items.foldr (fun item segments => attach item.segment segments) []

theorem joined_cons (item : Item) (items : List Item) :
    joined (item :: items) = attach item.segment (joined items) :=
  rfl

theorem attach_of_ne {s : Segment} (h : s.kind ≠ .literal) (segments : List Segment) :
    attach s segments = s :: segments := by
  cases segments with
  | nil => rfl
  | cons t more => exact if_neg fun both => h both.1

theorem isChain_attach (s : Segment) {segments : List Segment} (h : segments.IsChain Apart) :
    (attach s segments).IsChain Apart := by
  cases segments with
  | nil => exact .singleton s
  | cons t more =>
    rw [attach]
    split
    · next both =>
      cases h with
      | singleton => exact .singleton _
      | cons_cons apart h => exact .cons_cons (fun _ => apart both.2) h
    · next both => exact .cons_cons (fun hs ht => both ⟨hs, ht⟩) h

theorem isChain_joined (items : List Item) : (joined items).IsChain Apart := by
  induction items with
  | nil => exact .nil
  | cons item items ih => exact isChain_attach item.segment ih

end Joining

section Splitting

/-- Reading a text yields these segments, wherever in a key it stands. -/
def SplitsInto (text : List Char) (segments : List Segment) : Prop :=
  ∀ fuel offset, text.length ≤ fuel → segmentsFrom fuel offset text = .ok segments

/-- An item that is no plain character is read by itself. -/
theorem SplitsInto.item {item : Item} (hkind : item.segment.kind ≠ .literal) {items : List Item}
    (h : SplitsInto (sources items) (joined items)) :
    SplitsInto (sources (item :: items)) (joined (item :: items)) := by
  intro fuel offset enough
  obtain ⟨c, more, hsource, hsegment⟩ := takeSegment_source hkind (settled_sources items) offset
  rw [sources_cons, hsource, List.cons_append] at enough ⊢
  rw [List.length_cons, List.length_append] at enough
  obtain ⟨fuel, rfl⟩ := Nat.exists_eq_add_one_of_ne_zero (Nat.ne_of_gt (Nat.zero_lt_of_lt enough))
  rw [segmentsFrom, hsegment]
  dsimp only
  rw [h fuel _ (by omega), joined_cons, attach_of_ne hkind]

theorem takeSegment_plain {c : Char} (hc : isPlain c = true) (offset : Nat) (rest : List Char) :
    takeSegment offset c rest =
      .ok (Segment.plain (c :: rest.takeWhile isPlain), rest.dropWhile isPlain) := by
  simp only [isPlain, Bool.not_eq_true', Bool.or_eq_false_iff, beq_eq_false_iff_ne] at hc
  simp [takeSegment, hc]

/-- No run of plain characters goes on into another item. -/
theorem takeWhile_sources {item : Item} (hkind : item.segment.kind ≠ .literal)
    (items : List Item) : (sources (item :: items)).takeWhile isPlain = [] ∧
      (sources (item :: items)).dropWhile isPlain = sources (item :: items) := by
  cases item with
  | plain => exact absurd rfl hkind
  | mark | escapedClass | class_ | group => exact ⟨rfl, rfl⟩

/-- A plain character joins the run behind it, or is a run of its own. -/
theorem SplitsInto.plain {c : Char} (hc : isPlain c = true) {items : List Item}
    (h : SplitsInto (sources items) (joined items)) :
    SplitsInto (sources (.plain c hc :: items)) (joined (.plain c hc :: items)) := by
  intro fuel offset enough
  change (c :: sources items).length ≤ fuel at enough
  rw [List.length_cons] at enough
  obtain ⟨fuel, rfl⟩ := Nat.exists_eq_add_one_of_ne_zero (Nat.ne_of_gt (Nat.zero_lt_of_lt enough))
  change segmentsFrom (fuel + 1) offset (c :: sources items) = _
  rw [segmentsFrom, takeSegment_plain hc]
  dsimp only
  cases items with
  | nil => cases fuel <;> rfl
  | cons item items =>
    by_cases hkind : item.segment.kind = .literal
    · cases item with
      | plain d hd =>
        -- The run behind is read alike with or without a character in front.
        have hrun := h (fuel + 1) (offset + 1) (by omega)
        change segmentsFrom (fuel + 1) (offset + 1) (d :: sources items) = _ at hrun
        rw [segmentsFrom, takeSegment_plain hd] at hrun
        dsimp only at hrun
        split at hrun
        · cases hrun
        next others hothers =>
        have hlength (run : List Char) : offset + (Segment.plain (c :: d :: run)).source.length =
            offset + 1 + (Segment.plain (d :: run)).source.length := by
          simp only [Segment.plain, List.length_cons]
          omega
        have htake : (sources (.plain d hd :: items)).takeWhile isPlain =
            d :: (sources items).takeWhile isPlain :=
          List.takeWhile_cons_of_pos hd
        have hdrop : (sources (.plain d hd :: items)).dropWhile isPlain =
            (sources items).dropWhile isPlain :=
          List.dropWhile_cons_of_pos hd
        rw [htake, hdrop, hlength, hothers, joined_cons, ← Except.ok.inj hrun]
        rfl
      | mark | escapedClass | class_ | group => cases hkind
    · obtain ⟨htake, hdrop⟩ := takeWhile_sources hkind items
      rw [htake, hdrop, h fuel _ (by omega), joined_cons (.plain c hc), joined_cons item,
        attach_of_ne hkind]
      exact (congrArg Except.ok (if_neg fun both => hkind both.2)).symm

theorem splitsInto_joined (items : List Item) : SplitsInto (sources items) (joined items) := by
  induction items with
  | nil =>
    intro fuel offset _
    cases fuel <;> rfl
  | cons item items ih =>
    cases item with
    | plain c hc => exact .plain hc ih
    | mark | escapedClass | class_ | group => exact .item (by simp [Item.segment]) ih

theorem exists_items_of_spelling {segments : List Segment}
    (h : ∀ s ∈ segments, ∃ items, s.source = sources items) :
    ∃ items, spelling segments = sources items := by
  induction segments with
  | nil => exact ⟨[], rfl⟩
  | cons s segments ih =>
    obtain ⟨⟨first, hfirst⟩, hrest⟩ := List.forall_mem_cons.mp h
    obtain ⟨items, hitems⟩ := ih hrest
    exact ⟨first ++ items, by rw [spelling_cons, hfirst, hitems, sources_append]⟩

theorem exists_items_of_segmentsFrom {fuel offset : Nat} {text : List Char}
    {segments : List Segment} (enough : text.length ≤ fuel)
    (h : segmentsFrom fuel offset text = .ok segments) : ∃ items, text = sources items := by
  rw [← spelling_of_segmentsFrom enough h]
  exact exists_items_of_spelling (forall_mem_of_segmentsFrom exists_items_of_takeSegment h)

def keyOf (items : List Item) : List Char :=
  '^' :: (sources items ++ ['$'])

theorem body?_keyOf (items : List Item) : body? (keyOf items) = some (sources items) := by
  have hlast : (sources items ++ ['$']).getLast? = some '$' := List.getLast?_concat
  rw [keyOf, body?, if_pos hlast, List.dropLast_concat]

theorem getLast?_repetition_ne (repetition : Repetition) :
    repetition.source.getLast? ≠ some '\\' := by
  cases repetition with
  | once => simp [Repetition.source]
  | mark c isMark greed =>
    rcases isMark with rfl | rfl | rfl <;> cases greed <;> decide
  | bounds content _ _ greed =>
    cases greed <;> simp [Repetition.source, greedSource, List.getLast?_cons, List.getLast?_append]

theorem getLast?_of_repeated {front : List Char} {repetition : Repetition}
    (h : (front ++ repetition.source).getLast? = some '\\') : front.getLast? = some '\\' := by
  rw [List.getLast?_append, Option.or_eq_some_iff] at h
  exact (h.resolve_left (getLast?_repetition_ne repetition)).2

/-- An item that ends with a backslash is that mark behind another one. -/
theorem source_of_getLast? {item : Item} (h : item.source.getLast? = some '\\') :
    item.source = ['\\', '\\'] := by
  cases item with
  | plain c isPlain =>
    obtain rfl : c = '\\' := Option.some.inj h
    cases isPlain
  | mark c isMark =>
    obtain rfl : c = '\\' := Option.some.inj h
    rfl
  | escapedClass c isClass repetition =>
    have hfront : ['\\', c].getLast? = some '\\' := getLast?_of_repeated h
    obtain rfl : c = '\\' := Option.some.inj hfront
    exact absurd isClass (by decide)
  | class_ brackets repetition =>
    have hfront : brackets.source.getLast? = some '\\' := getLast?_of_repeated h
    simp [Bracketed.source, Bracketed.inside, List.getLast?_cons, List.getLast?_append] at hfront
  | group parts => simp [Item.source, List.getLast?_cons, List.getLast?_append] at h

theorem source_ne_nil (item : Item) : item.source ≠ [] := by
  cases item <;> exact List.cons_ne_nil _ _

/-- A backslash at the end belongs to the one in front of it. -/
theorem endsEscaped_sources (items : List Item) : endsEscaped (sources items) = false := by
  fun_cases endsEscaped (sources items) with
  | case1 => rfl
  | case2 rest not_both hend =>
    have hlast : (sources items).getLast? = some '\\' := by
      rw [List.getLast?_eq_head?_reverse, hend]
      rfl
    rcases List.eq_nil_or_concat' items with rfl | ⟨front, item, rfl⟩
    · cases hlast
    · have hsources : sources (front ++ [item]) = sources front ++ item.source := by
        rw [sources_append, sources_cons]
        exact congrArg _ (List.append_nil _)
      rw [hsources, List.getLast?_append, Option.or_eq_some_iff] at hlast
      have hitem := hlast.resolve_right fun hnothing =>
        source_ne_nil item (List.getLast?_eq_none_iff.mp hnothing.1)
      rw [hsources, source_of_getLast? hitem, List.reverse_append] at hend
      exact (not_both _ (List.cons.inj hend).2.symm).elim
  | case3 => rfl

theorem split_keyOf (items : List Item) :
    split (keyOf items) = .ok (Segment.caret :: joined items ++ [Segment.dollar]) := by
  rw [split, body?_keyOf]
  dsimp only
  rw [endsEscaped_sources, splitsInto_joined items _ _ (Nat.le_refl _)]
  rfl

theorem exists_items_of_split {pattern : List Char} {segments : List Segment}
    (h : split pattern = .ok segments) : ∃ items, pattern = keyOf items ∧
      segments = Segment.caret :: joined items ++ [Segment.dollar] := by
  have hsplit := h
  rw [split] at h
  split at h
  · cases h
  next body hbody =>
  split at h
  · cases h
  split at h
  · cases h
  next inner hinner =>
  obtain ⟨items, rfl⟩ := exists_items_of_segmentsFrom (Nat.le_refl _) hinner
  have hpattern := eq_of_body? hbody
  exact ⟨items, hpattern, Except.ok.inj (hsplit.symm.trans (hpattern ▸ split_keyOf items))⟩

/-- Faults of a key itself, which splitting it finds. -/
def OfKey {α : Type} (outcome : Except PatternFault α) : Prop :=
  outcome ≠ .error .tooManyRounds

theorem ofKey_takeQuantifier (offset : Nat) (text : List Char) :
    OfKey (takeQuantifier offset text) := by
  fun_cases takeQuantifier offset text <;> simp [OfKey]

theorem ofKey_prepend {c : Char} {read : Except PatternFault (List Char × List Char)}
    (h : OfKey read) : OfKey (prepend c read) := by
  cases read with
  | ok read => simp [OfKey, prepend]
  | error fault => exact fun heq => h (congrArg Except.error (Except.error.inj heq))

theorem ofKey_takeGroup (start skip offset : Nat) (text : List Char) :
    OfKey (takeGroup start skip offset text) := by
  fun_induction takeGroup start skip offset text
  all_goals first | exact ofKey_prepend ‹_› | simp [OfKey]

theorem OfKey.of_error {α β : Type} {outcome : Except PatternFault α} {fault : PatternFault}
    (h : OfKey outcome) (heq : outcome = .error fault) :
    OfKey (.error fault : Except PatternFault β) :=
  fun hfault => h (heq.trans (congrArg Except.error (Except.error.inj hfault)))

theorem ofKey_takeEscape (offset : Nat) (text : List Char) : OfKey (takeEscape offset text) := by
  fun_cases takeEscape offset text
  all_goals first | exact (ofKey_takeQuantifier _ _).of_error ‹_› | simp [OfKey]

theorem ofKey_takeSegment (offset : Nat) (c : Char) (rest : List Char) :
    OfKey (takeSegment offset c rest) := by
  fun_cases takeSegment offset c rest
  all_goals first
    | exact ofKey_takeEscape _ _
    | exact (ofKey_takeQuantifier _ _).of_error ‹_›
    | exact (ofKey_takeGroup _ _ _ _).of_error ‹_›
    | simp [OfKey]

theorem ofKey_segmentsFrom (fuel offset : Nat) (text : List Char) :
    OfKey (segmentsFrom fuel offset text) := by
  fun_induction segmentsFrom fuel offset text with
  | case1 => simp [OfKey]
  | case2 => simp [OfKey]
  | case3 _ offset c rest _ h => exact (ofKey_takeSegment offset c rest).of_error h
  | case4 _ _ _ _ _ _ _ _ h ih => exact ih.of_error h
  | case5 => simp [OfKey]

theorem ofKey_split (pattern : List Char) : OfKey (split pattern) := by
  fun_cases split pattern
  all_goals first
    | exact (ofKey_segmentsFrom _ _ _).of_error ‹_›
    | simp [OfKey]

end Splitting

section Compiling

def Compiles (text : List Char) : Prop :=
  ∃ e, Regex.parse text = .ok e

/-- Whatever the segments spell from the first one on is a valid expression. -/
def CompilesThrough (segments : List Segment) : Prop :=
  ∀ front, front <+: segments → Compiles (spelling front)

/-- The first of the texts behind `before` that end with one of the segments and are no expression,
and why. -/
structure FirstFailing (before : List Char) (segments front : List Segment)
    (reason : Regex.Fault) : Prop where
  isFront : front <+: segments
  nonempty : front ≠ []
  fails : Regex.parse (before ++ spelling front) = .error reason
  earlier : ∀ shorter, shorter <+: front → shorter ≠ [] → shorter ≠ front →
    Compiles (before ++ spelling shorter)

variable {before : List Char} {segments front : List Segment} {s : Segment} {reason : Regex.Fault}

theorem append_spelling_cons (before : List Char) (s : Segment) (segments : List Segment) :
    before ++ spelling (s :: segments) = before ++ s.source ++ spelling segments := by
  rw [spelling_cons, List.append_assoc]

theorem append_spelling_singleton (before : List Char) (s : Segment) :
    before ++ spelling [s] = before ++ s.source := by
  rw [append_spelling_cons]
  exact List.append_nil _

theorem compiles_nil : Compiles [] :=
  ⟨_, rfl⟩

theorem not_compiles (h : Regex.parse before = .error reason) : ¬ Compiles before := by
  rintro ⟨e, he⟩
  rw [h] at he
  cases he

/-- If the first text fails, no other one is the first to fail. -/
theorem firstFailing_of_error {found : Regex.Fault}
    (h : Regex.parse (before ++ s.source) = .error found) :
    FirstFailing before (s :: segments) front reason ↔ front = [s] ∧ reason = found := by
  have hsingle : Regex.parse (before ++ spelling [s]) = .error found := by
    rw [append_spelling_singleton, h]
  constructor
  · rintro ⟨isFront, nonempty, fails, earlier⟩
    have hfront : front = [s] := by
      obtain ⟨first, rest, rfl⟩ := List.exists_cons_of_ne_nil nonempty
      obtain ⟨rfl, -⟩ := List.cons_prefix_cons.mp isFront
      by_contra hother
      refine not_compiles hsingle (earlier [first] ?_ (List.cons_ne_nil _ _) (Ne.symm hother))
      exact List.cons_prefix_cons.mpr ⟨rfl, List.nil_prefix⟩
    subst hfront
    exact ⟨rfl, Except.error.inj (fails.symm.trans hsingle)⟩
  · rintro ⟨rfl, rfl⟩
    refine ⟨List.cons_prefix_cons.mpr ⟨rfl, List.nil_prefix⟩, List.cons_ne_nil _ _, hsingle, ?_⟩
    intro shorter hshorter nonempty hother
    obtain ⟨first, rest, rfl⟩ := List.exists_cons_of_ne_nil nonempty
    obtain ⟨rfl, hrest⟩ := List.cons_prefix_cons.mp hshorter
    obtain rfl := List.prefix_nil.mp hrest
    exact absurd rfl hother

/-- If the first text compiles, the first one to fail is the first one behind it. -/
theorem firstFailing_of_compiles (h : Compiles (before ++ s.source)) :
    FirstFailing before (s :: segments) front reason ↔
      ∃ rest, front = s :: rest ∧ FirstFailing (before ++ s.source) segments rest reason := by
  constructor
  · rintro ⟨isFront, nonempty, fails, earlier⟩
    obtain ⟨first, rest, rfl⟩ := List.exists_cons_of_ne_nil nonempty
    obtain ⟨rfl, hrest⟩ := List.cons_prefix_cons.mp isFront
    refine ⟨rest, rfl, hrest, ?_, ?_, fun shorter hshorter _ hother => ?_⟩
    · rintro rfl
      rw [append_spelling_singleton] at fails
      exact not_compiles fails h
    · rwa [append_spelling_cons] at fails
    · rw [← append_spelling_cons]
      exact earlier _ (List.cons_prefix_cons.mpr ⟨rfl, hshorter⟩) (List.cons_ne_nil _ _)
        fun heq => hother (List.cons.inj heq).2
  · rintro ⟨rest, rfl, isFront, nonempty, fails, earlier⟩
    refine ⟨List.cons_prefix_cons.mpr ⟨rfl, isFront⟩, List.cons_ne_nil _ _, ?_, ?_⟩
    · rwa [append_spelling_cons]
    · intro shorter hshorter hne hother
      obtain ⟨first, more, rfl⟩ := List.exists_cons_of_ne_nil hne
      obtain ⟨rfl, hmore⟩ := List.cons_prefix_cons.mp hshorter
      by_cases hnil : more = []
      · rwa [hnil, append_spelling_singleton]
      · rw [append_spelling_cons]
        exact earlier more hmore hnil fun heq => hother (congrArg _ heq)

theorem checkPrefixes_of_compiles (h : Compiles (before ++ s.source)) (segments : List Segment) :
    checkPrefixes before (s :: segments) = checkPrefixes (before ++ s.source) segments := by
  obtain ⟨e, he⟩ := h
  rw [checkPrefixes, he]

theorem checkPrefixes_eq_ok_iff : checkPrefixes before segments = .ok () ↔
    ∀ front, front <+: segments → front ≠ [] → Compiles (before ++ spelling front) := by
  induction segments generalizing before with
  | nil =>
    refine ⟨fun _ front hfront nonempty => ?_, fun _ => rfl⟩
    exact absurd (List.prefix_nil.mp hfront) nonempty
  | cons s segments ih =>
    cases hparse : Regex.parse (before ++ s.source) with
    | ok e =>
      rw [checkPrefixes_of_compiles ⟨e, hparse⟩, ih]
      constructor
      · intro h front hfront nonempty
        obtain ⟨first, rest, rfl⟩ := List.exists_cons_of_ne_nil nonempty
        obtain ⟨rfl, hrest⟩ := List.cons_prefix_cons.mp hfront
        by_cases hnil : rest = []
        · rw [hnil, append_spelling_singleton]
          exact ⟨e, hparse⟩
        · rw [append_spelling_cons]
          exact h rest hrest hnil
      · intro h rest hrest _
        rw [← append_spelling_cons]
        exact h _ (List.cons_prefix_cons.mpr ⟨rfl, hrest⟩) (List.cons_ne_nil _ _)
    | error found =>
      constructor
      · intro h
        rw [checkPrefixes, hparse] at h
        cases found <;> cases h
      · intro h
        have hs := h [s] (List.cons_prefix_cons.mpr ⟨rfl, List.nil_prefix⟩) (List.cons_ne_nil _ _)
        rw [append_spelling_singleton] at hs
        exact absurd hs (not_compiles hparse)

theorem checkPrefixes_eq_tooManyRounds_iff :
    checkPrefixes before segments = .error .tooManyRounds ↔
      ∃ front, FirstFailing before segments front .tooManyRounds := by
  induction segments generalizing before with
  | nil =>
    refine ⟨nofun, ?_⟩
    rintro ⟨front, isFront, nonempty, -, -⟩
    exact absurd (List.prefix_nil.mp isFront) nonempty
  | cons s segments ih =>
    cases hparse : Regex.parse (before ++ s.source) with
    | ok e =>
      simp only [firstFailing_of_compiles ⟨e, hparse⟩]
      rw [checkPrefixes_of_compiles ⟨e, hparse⟩, ih]
      exact ⟨fun ⟨rest, h⟩ => ⟨_, rest, rfl, h⟩, fun ⟨_, rest, _, h⟩ => ⟨rest, h⟩⟩
    | error found =>
      simp only [firstFailing_of_error hparse]
      rw [checkPrefixes, hparse]
      cases found <;> simp

/-- The dollar compiles behind what compiles. -/
theorem checkPrefixes_concat_dollar (h : CompilesThrough segments) :
    checkPrefixes [] (segments ++ [Segment.dollar]) = .ok () := by
  refine checkPrefixes_eq_ok_iff.mpr fun front hfront _ => ?_
  rw [List.nil_append]
  rcases List.prefix_concat_iff.mp hfront with rfl | hfront
  · obtain ⟨e, he⟩ := h segments List.prefix_rfl
    rw [spelling_concat]
    exact Regex.exists_parse_concat_dollar he
  · exact h front hfront

theorem firstFailing_concat_dollar :
    FirstFailing [] (segments ++ [Segment.dollar]) front reason ↔
      FirstFailing [] segments front reason := by
  constructor
  · rintro ⟨isFront, nonempty, fails, earlier⟩
    refine ⟨?_, nonempty, fails, earlier⟩
    refine (List.prefix_concat_iff.mp isFront).resolve_left ?_
    rintro rfl
    have hsegments : Compiles (spelling segments) := by
      by_cases hnil : segments = []
      · rw [hnil]
        exact compiles_nil
      · exact earlier segments (List.prefix_append _ _) hnil (by simp)
    obtain ⟨e, he⟩ := hsegments
    rw [List.nil_append, spelling_concat] at fails
    exact not_compiles fails (Regex.exists_parse_concat_dollar he)
  · rintro ⟨isFront, nonempty, fails, earlier⟩
    exact ⟨isFront.trans (List.prefix_append _ _), nonempty, fails, earlier⟩

end Compiling

section Keys

variable {pattern : List Char} {segments : List Segment}

theorem parse_eq_ok_iff : parse pattern = .ok segments ↔ ∃ items, pattern = keyOf items ∧
    segments = Segment.caret :: joined items ++ [Segment.dollar] ∧
      CompilesThrough (Segment.caret :: joined items) := by
  constructor
  · intro h
    obtain ⟨items, hpattern, rfl⟩ := exists_items_of_split (split_of_parse h)
    refine ⟨items, hpattern, rfl, fun front hfront => ?_⟩
    by_cases hnil : front = []
    · rw [hnil]
      exact compiles_nil
    · exact checkPrefixes_eq_ok_iff.mp (checkPrefixes_of_parse h) front
        (hfront.trans (List.prefix_append _ _)) hnil
  · rintro ⟨items, rfl, rfl, compiles⟩
    have hcheck := checkPrefixes_concat_dollar compiles
    rw [parse, split_keyOf]
    dsimp only
    rw [hcheck]

theorem parse_eq_tooManyRounds_iff : parse pattern = .error .tooManyRounds ↔
    ∃ items front, pattern = keyOf items ∧
      FirstFailing [] (Segment.caret :: joined items) front .tooManyRounds := by
  constructor
  · intro h
    rw [parse] at h
    split at h
    · next hsplit =>
      obtain rfl := Except.error.inj h
      exact absurd hsplit (ofKey_split pattern)
    next segments hsplit =>
    obtain ⟨items, hpattern, rfl⟩ := exists_items_of_split hsplit
    split at h
    · next hcheck =>
      obtain rfl := Except.error.inj h
      obtain ⟨front, hfront⟩ := checkPrefixes_eq_tooManyRounds_iff.mp hcheck
      exact ⟨items, front, hpattern, firstFailing_concat_dollar.mp hfront⟩
    · cases h
  · rintro ⟨items, front, rfl, hfront⟩
    have hcheck := checkPrefixes_eq_tooManyRounds_iff.mpr
      ⟨front, firstFailing_concat_dollar.mpr hfront⟩
    rw [parse, split_keyOf]
    dsimp only
    rw [hcheck]

/-- Anchors are not literal, so only what is between them could have literal neighbours. -/
theorem isChain_delimited (items : List Item) :
    (Segment.caret :: joined items ++ [Segment.dollar]).IsChain Apart := by
  rw [List.cons_append, List.isChain_cons, List.isChain_append]
  exact ⟨nofun, isChain_joined items, .singleton _, fun s _ t ht _ => by
    obtain rfl : Segment.dollar = t := Option.some.inj ht
    nofun⟩

/-- A key is accepted exactly if it writes items between its anchors and whatever stands in front of
the dollar compiles, segment by segment. The segments are then the items in order with no literal
one beside another, the anchors stand first and last only, and together they spell the key. Anything
else is refused, and that for another reason than a fault of the key itself only where the first
text that does not compile asks for too many rounds. -/
theorem accepted_iff_flat (pattern : List Char) :
    (∀ segments, parse pattern = .ok segments ↔ ∃ items, pattern = keyOf items ∧
      segments = Segment.caret :: joined items ++ [Segment.dollar] ∧
        CompilesThrough (Segment.caret :: joined items)) ∧
    (∀ segments, parse pattern = .ok segments → spelling segments = pattern ∧
      segments.IsChain Apart ∧ ∃ inner, segments = Segment.caret :: inner ++ [Segment.dollar] ∧
        ∀ s ∈ inner, s.kind ≠ .caret ∧ s.kind ≠ .dollar) ∧
    ((¬ ∃ items, pattern = keyOf items ∧ CompilesThrough (Segment.caret :: joined items)) →
      ∃ fault, parse pattern = .error fault ∧
        (fault = .tooManyRounds ↔ ∃ items front, pattern = keyOf items ∧
          FirstFailing [] (Segment.caret :: joined items) front .tooManyRounds)) := by
  refine ⟨fun segments => parse_eq_ok_iff, fun segments h => ?_, fun refused => ?_⟩
  · obtain ⟨items, -, rfl, -⟩ := parse_eq_ok_iff.mp h
    exact ⟨spelling_of_parse h, isChain_delimited items, joined items, rfl, fun s hs =>
      ⟨(isInner_of_parse h s hs).not_caret, (isInner_of_parse h s hs).not_dollar⟩⟩
  · cases hparse : parse pattern with
    | ok segments =>
      obtain ⟨items, hpattern, -, compiles⟩ := parse_eq_ok_iff.mp hparse
      exact absurd ⟨items, hpattern, compiles⟩ refused
    | error fault =>
      refine ⟨fault, rfl, ?_⟩
      rw [← parse_eq_tooManyRounds_iff, hparse, Except.error.injEq]

/-- An accepted key with a class whose first member is a closing bracket, and a refused one. -/
theorem accepted_iff_flat_ports :
    (∃ segments, parse "^ab\\.[^]x]+?(c|d)$".toList = .ok segments ∧
      segments.map Segment.source = ["^".toList, "ab".toList, "\\.".toList, "[^]x]+?".toList,
        "(c|d)".toList, "$".toList] ∧ segments.IsChain Apart ∧
      spelling segments = "^ab\\.[^]x]+?(c|d)$".toList) ∧
    ∃ fault, parse "^a.b$".toList = .error fault ∧ fault ≠ .tooManyRounds := by
  constructor
  · have hsegments : ((parse "^ab\\.[^]x]+?(c|d)$".toList).toOption.map fun segments =>
        segments.map Segment.source) = some ["^".toList, "ab".toList, "\\.".toList,
          "[^]x]+?".toList, "(c|d)".toList, "$".toList] := by decide +kernel
    obtain ⟨segments, hparse, hsources⟩ := Option.map_eq_some_iff.mp hsegments
    have hparse := eq_ok_of_toOption_eq_some hparse
    obtain ⟨hspelling, apart, -⟩ := (accepted_iff_flat _).2.1 segments hparse
    exact ⟨segments, hparse, hsources, apart, hspelling⟩
  · have hdot : parse "^a.b$".toList = .error .bareDot := by decide +kernel
    have hrefused : ¬ ∃ items, "^a.b$".toList = keyOf items ∧
        CompilesThrough (Segment.caret :: joined items) := by
      rintro ⟨items, hitems, compiles⟩
      have hparse := ((accepted_iff_flat _).1 _).mpr ⟨items, hitems, rfl, compiles⟩
      cases hdot.symm.trans hparse
    obtain ⟨fault, hfault, -⟩ := (accepted_iff_flat "^a.b$".toList).2.2 hrefused
    obtain rfl := Except.error.inj (hfault.symm.trans hdot)
    exact ⟨_, hdot, nofun⟩

/-- A key that asks for more rounds than can be counted has no fault of its own, but is not accepted
either. -/
theorem not_forall_refused : ¬ ∀ pattern : List Char,
    (¬ ∃ items, pattern = keyOf items ∧ CompilesThrough (Segment.caret :: joined items)) →
      ∃ fault, parse pattern = .error fault ∧ fault ≠ .tooManyRounds := by
  intro claim
  have huncountable : parse "^[a]{4294967295}$".toList = .error .tooManyRounds := by decide +kernel
  have hrefused : ¬ ∃ items, "^[a]{4294967295}$".toList = keyOf items ∧
      CompilesThrough (Segment.caret :: joined items) := by
    rintro ⟨items, hitems, compiles⟩
    cases huncountable.symm.trans (parse_eq_ok_iff.mpr ⟨items, hitems, rfl, compiles⟩)
  obtain ⟨fault, hfault, counted⟩ := claim _ hrefused
  exact counted (Except.error.inj (hfault.symm.trans huncountable))

end Keys

end NextWord.Pattern
