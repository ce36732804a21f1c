import NextWord.Proofs.Pattern.FullCompletion
import NextWord.Proofs.Pattern.Spelling
import NextWord.Proofs.Regex.PlainMatching

/-!
# The completions of delimited patterns

A prefix of a delimited pattern takes of a path what a scan of its parts takes, so a node of the
tree is visited by the paths that a scan leads so far, and remembers what its run takes of them.
What the tree offers is therefore told without a matcher: the cross product of the values of the
runs, cut in front of the first run without a value.
-/

namespace NextWord

open PatternNode (prefixMatch? walkStops bare)

namespace Pattern

section Prefixes

variable {pattern : List Char} {inner : List Segment} {each : List (List Part)}

/-- A prefix of a delimited pattern takes what a scan of its parts takes. -/
theorem prefixMatch?_spelling (inners : ∀ s ∈ inner, s.IsInner)
    (written : List.Forall₂ Writes inner each) (apart : each.flatten.IsChain Part.Precedes)
    (path : List Char) :
    prefixMatch? ('^' :: spelling inner) path = (scan each.flatten path).map Prod.fst := by
  obtain ⟨items, realized, ⟨least, hleast, hparse⟩, -⟩ :=
    Regex.exists_parse_of_readsAs (Regex.readsAs_spelling inners written)
  rw [prefixMatch?, Regex.ofText?, hparse]
  exact Regex.takes?_of_realizes realized apart hleast path

/-- A delimited pattern matches a text in full that a scan of its parts takes in full. -/
theorem fits_of_scan {parts : List Part} (delimited : Delimited pattern parts) {text : List Char}
    (hscan : scan parts text = some (text, [])) : fits pattern text = true := by
  obtain ⟨inner, each, hsegments, written, rfl⟩ := delimited.written
  have hpattern : pattern = '^' :: spelling inner ++ ['$'] := by
    rw [← spelling_of_parse hsegments, spelling_concat]
    rfl
  obtain ⟨items, realized, -, least, hleast, hparse⟩ :=
    Regex.exists_parse_of_readsAs (Regex.readsAs_spelling (isInner_of_parse hsegments) written)
  have hdone (t : Regex.Trace) :
      (Regex.atEnd ⟨text.reverse, []⟩ t).Finds fun _ => True := ⟨_, rfl, trivial⟩
  obtain ⟨u, hu, -⟩ := Regex.finds_of_scan_all realized hscan hdone ⟨[], ⟨[], text⟩⟩
  rw [fits, Regex.ofText?, hpattern, hparse]
  dsimp only [Except.toOption]
  rw [Regex.Expression.fits, if_neg (Regex.not_length_lt_of_scan hleast hscan), hu]

end Prefixes

section Visits

variable {paths : List (List Char)} {before parts : List Part} {members : List Span}
  {source value : List Char}

/-- The visits that a scan of the parts in front of a node leads there. -/
def visitsBehind (paths : List (List Char)) (before : List Part) : List Visit :=
  paths.filterMap fun path =>
    (scan before (Path.fold path)).map fun (taken, _) => ⟨Path.fold path, taken.length⟩

/-- A node lets the visits through that a scan leads on. -/
theorem goOn?_visitsBehind
    (takes : ∀ path, prefixMatch? source path = (scan (before ++ parts) path).map Prod.fst) :
    (visitsBehind paths before).filterMap (Visit.goOn? source) =
      visitsBehind paths (before ++ parts) := by
  rw [visitsBehind, List.filterMap_filterMap]
  congr 1
  funext path
  rw [scan_append]
  cases hscan : scan before (Path.fold path) with
  | none => rfl
  | some found =>
    obtain ⟨taken, left⟩ := found
    rw [Option.map_some, Option.bind_some, Visit.goOn?, takes, scan_append, hscan]
    simp [Function.comp_def]

theorem visitsBehind_nil : visitsBehind paths [] = Visit.ofPaths paths := by
  rw [visitsBehind, Visit.ofPaths, ← List.filterMap_eq_map]
  rfl

theorem mem_visitsBehind {v : Visit} : v ∈ visitsBehind paths before ↔
    ∃ path ∈ paths, ∃ taken left, scan before (Path.fold path) = some (taken, left) ∧
      v = ⟨Path.fold path, taken.length⟩ := by
  rw [visitsBehind, List.mem_filterMap]
  constructor
  · rintro ⟨path, hpath, hv⟩
    obtain ⟨⟨taken, left⟩, hscan, rfl⟩ := Option.map_eq_some_iff.mp hv
    exact ⟨path, hpath, taken, left, hscan, rfl⟩
  · rintro ⟨path, hpath, taken, left, hscan, rfl⟩
    exact ⟨path, hpath, by rw [hscan, Option.map_some]⟩

/-- The run behind what a scan has taken of a path is remembered if it is not empty. -/
theorem slice?_eq_some_iff {path taken left : List Char} (takes :
    prefixMatch? source path = (scan (before ++ [.run members]) path).map Prod.fst)
    (hscan : scan before path = some (taken, left)) :
    Visit.slice? source ⟨path, taken.length⟩ = some value ↔
      value ≠ [] ∧ value = left.takeWhile (belongs members) := by
  rw [Visit.slice?, takes, scan_append, hscan, Option.bind_some]
  by_cases hvalue : left.takeWhile (belongs members) = []
  · simp [scan, hvalue]
  · have hnonempty : value = left.takeWhile (belongs members) → value ≠ [] := by
      rintro rfl
      exact hvalue
    simpa [scan, hvalue, eq_comm] using hnonempty

/-- What a node remembers of its visits are the values of its run. -/
theorem mem_slices_iff_isValue (takes : ∀ path,
    prefixMatch? source path = (scan (before ++ [.run members]) path).map Prod.fst) :
    value ∈ (visitsBehind paths before).filterMap (Visit.slice? source) ↔
      IsValue paths before members value := by
  rw [List.mem_filterMap]
  constructor
  · rintro ⟨v, hv, hslice⟩
    obtain ⟨path, hpath, taken, left, hscan, rfl⟩ := mem_visitsBehind.mp hv
    obtain ⟨hnonempty, hvalue⟩ := (slice?_eq_some_iff (takes _) hscan).mp hslice
    exact ⟨hnonempty, path, hpath, taken, left, hscan, hvalue⟩
  · rintro ⟨hnonempty, path, hpath, taken, left, hscan, hvalue⟩
    exact ⟨_, mem_visitsBehind.mpr ⟨path, hpath, taken, left, hscan, rfl⟩,
      (slice?_eq_some_iff (takes _) hscan).mpr ⟨hnonempty, hvalue⟩⟩

end Visits

section Completions

variable {paths : List (List Char)} {before more : List Part} {members : List Span}
  {text : List Char}

/-- Characters are completed as they are. -/
theorem completes_chars_iff (literal : List Char) :
    Completes paths before (literal.map .char ++ more) text ↔
      ∃ rest, Completes paths (before ++ literal.map .char) more rest ∧ text = literal ++ rest := by
  induction literal generalizing before text with
  | nil => simp
  | cons c literal ih =>
    have happend : before ++ (c :: literal).map .char =
        before ++ [.char c] ++ literal.map .char := by
      simp
    rw [happend]
    constructor
    · intro h
      cases h with
      | char rest =>
        obtain ⟨text, hrest, rfl⟩ := ih.mp rest
        exact ⟨text, hrest, rfl⟩
    · rintro ⟨rest, hrest, rfl⟩
      exact .char (ih.mpr ⟨rest, hrest, rfl⟩)

theorem completes_run_iff : Completes paths before (.run members :: more) text ↔
    (∃ value, IsValue paths before members value ∧
      ∃ rest, Completes paths (before ++ [.run members]) more rest ∧ text = value ++ rest) ∨
    (∀ value, ¬ IsValue paths before members value) ∧ text = [] := by
  constructor
  · intro h
    cases h with
    | value isValue rest => exact .inl ⟨_, isValue, _, rest, rfl⟩
    | cut noValue => exact .inr ⟨noValue, rfl⟩
  · rintro (⟨value, isValue, rest, hrest, rfl⟩ | ⟨noValue, rfl⟩)
    · exact .value isValue hrest
    · exact .cut noValue

theorem completes_nil_iff : Completes paths before [] text ↔ text = [] := by
  constructor
  · intro h
    cases h
    rfl
  · rintro rfl
    exact .finish

end Completions

/-- A variable segment that remembers the values of a run offers what the run completes. -/
theorem offers_run_iff {paths : List (List Char)} {before : List Part} {members : List Span}
    {s : Segment} {seen : List (List Char)} {more : List Stop} {text : List Char}
    (isVariable : s.isVariable)
    (values : ∀ value, value ∈ seen ↔ IsValue paths before members value) :
    Offers (⟨s, seen⟩ :: more) text ↔
      (∃ value, IsValue paths before members value ∧
        ∃ rest, Offers more rest ∧ text = value ++ rest) ∨
      (∀ value, ¬ IsValue paths before members value) ∧ text = [] := by
  have nonempty {value : List Char} (h : value ∈ seen) : value ≠ [] :=
    ((values value).mp h).1
  rw [offers_variable_iff isVariable]
  constructor
  · rintro (⟨value, hmem, -, rest⟩ | ⟨noneKnown, rfl⟩)
    · exact .inl ⟨value, (values value).mp hmem, rest⟩
    · refine .inr ⟨fun value hvalue => ?_, rfl⟩
      have hmem := (values value).mpr hvalue
      exact nonempty hmem (noneKnown value hmem)
  · rintro (⟨value, hvalue, rest⟩ | ⟨noValue, rfl⟩)
    · have hmem := (values value).mpr hvalue
      exact .inl ⟨value, hmem, nonempty hmem, rest⟩
    · exact .inr ⟨fun value hmem => absurd ((values value).mp hmem) (noValue value), rfl⟩

/-- A segment between the anchors writes its literal, or a run where it is variable. -/
theorem writes_cases {s : Segment} {parts : List Part} (h : Writes s parts) :
    (s.isVariable = false ∧ s.kind ≠ .dollar ∧ parts = s.literal.map .char) ∨
      s.isVariable ∧ ∃ members, parts = [.run members] := by
  cases h with
  | fixed isFixed =>
    left
    rcases isFixed with hkind | hkind <;> simp [Segment.isVariable, hkind]
  | class_ isClass _ _ => exact .inr ⟨by simp [Segment.isVariable, isClass], _, rfl⟩
  | captured isGroup _ _ => exact .inr ⟨by simp [Segment.isVariable, isGroup], _, rfl⟩

/-- Behind a prefix, the nodes of a delimited pattern offer what its parts complete. -/
theorem offers_iff_completes {paths : List (List Char)} {front back : List Segment}
    {eachFront eachBack : List (List Part)} {text : List Char}
    (inners : ∀ s ∈ front ++ back, s.IsInner) (writtenFront : List.Forall₂ Writes front eachFront)
    (writtenBack : List.Forall₂ Writes back eachBack)
    (apart : (eachFront.flatten ++ eachBack.flatten).IsChain Part.Precedes) :
    Offers (walkStops (visitsBehind paths eachFront.flatten) ('^' :: spelling front)
        (bare (back ++ [Segment.dollar]))) text ↔
      Completes paths eachFront.flatten eachBack.flatten text := by
  -- On the segments behind the prefix: the visits stay those that a scan leads so far.
  induction writtenBack generalizing front eachFront text with
  | nil => exact offers_dollar_iff.trans completes_nil_iff.symm
  | @cons s parts back eachBack hs _ ih =>
    have written : List.Forall₂ Writes (front ++ [s]) (eachFront ++ [parts]) :=
      List.rel_append writtenFront (.cons hs .nil)
    have hflatten : (eachFront ++ [parts]).flatten = eachFront.flatten ++ parts := by simp
    have hspelling : '^' :: spelling (front ++ [s]) = '^' :: spelling front ++ s.source := by
      rw [spelling_concat, List.cons_append]
    rw [List.flatten_cons, ← List.append_assoc] at apart
    have inners' : ∀ t ∈ front ++ [s] ++ back, t.IsInner := by simpa using inners
    have takes (path : List Char) : prefixMatch? ('^' :: spelling front ++ s.source) path =
        (scan (eachFront.flatten ++ parts) path).map Prod.fst := by
      have inFront : ∀ t ∈ front ++ [s], t.IsInner := fun t ht =>
        inners' t (List.mem_append_left _ ht)
      rw [← hspelling, ← hflatten]
      refine prefixMatch?_spelling inFront written ?_ path
      rw [hflatten]
      exact apart.left_of_append
    have hbelow (rest : List Char) :
        Offers (walkStops (visitsBehind paths (eachFront ++ [parts]).flatten)
          ('^' :: spelling (front ++ [s])) (bare (back ++ [Segment.dollar]))) rest ↔
        Completes paths (eachFront ++ [parts]).flatten eachBack.flatten rest :=
      ih inners' written (by rwa [hflatten])
    rw [hflatten, hspelling] at hbelow
    rw [List.cons_append, bare, List.map_cons, walkStops, goOn?_visitsBehind takes,
      List.flatten_cons]
    rcases writes_cases hs with ⟨isFixed, not_dollar, rfl⟩ | ⟨isVariable, members, rfl⟩
    · rw [offers_fixed_iff isFixed not_dollar, completes_chars_iff]
      exact exists_congr fun rest => and_congr_left' (hbelow rest)
    · have values (value : List Char) : value ∈ ((visitsBehind paths eachFront.flatten).filterMap
          (Visit.slice? ('^' :: spelling front ++ s.source))).foldl PatternNode.remember [] ↔
          IsValue paths eachFront.flatten members value := by
        rw [PatternNode.mem_foldl_remember, mem_slices_iff_isValue takes]
        simp
      rw [offers_run_iff isVariable values, List.singleton_append, completes_run_iff]
      exact or_congr_left (exists_congr fun value => and_congr_right' (exists_congr fun rest =>
        and_congr_left' (hbelow rest)))

/-- An accepted delimited pattern, walked by paths from its caret on, offers what its parts
complete. -/
theorem offers_iff_completes_of_delimited {pattern : List Char} {parts : List Part}
    {segments : List Segment} (delimited : Delimited pattern parts)
    (hsegments : parse pattern = .ok segments) {paths : List (List Char)} {text : List Char} :
    Offers (walkStops (Visit.ofPaths paths) [] (bare segments)) text ↔
      Completes paths [] parts text := by
  obtain ⟨inner, each, hparse, written, rfl⟩ := delimited.written
  obtain rfl := Except.ok.inj (hsegments.symm.trans hparse)
  have takes (path : List Char) :
      prefixMatch? ([] ++ Segment.caret.source) path = (scan ([] ++ []) path).map Prod.fst :=
    prefixMatch?_spelling (List.forall_mem_nil _) .nil .nil path
  rw [List.cons_append, bare, List.map_cons, walkStops, ← visitsBehind_nil,
    goOn?_visitsBehind takes]
  refine (offers_fixed_iff rfl (by decide)).trans ?_
  have hbelow (rest : List Char) :
      Offers (walkStops (visitsBehind paths ([] ++ [])) ([] ++ Segment.caret.source)
        (bare (inner ++ [Segment.dollar]))) rest ↔ Completes paths [] each.flatten rest :=
    offers_iff_completes (isInner_of_parse hparse) .nil written delimited.apart
  constructor
  · rintro ⟨_, hrest, rfl⟩
    exact (hbelow _).mp hrest
  · intro h
    exact ⟨text, (hbelow text).mpr h, rfl⟩

section Readback

variable {paths : List (List Char)} {before more : List Part} {members : List Span}
  {text value : List Char}

/-- What is completed behind a run does not go on with characters of its class. -/
theorem takeWhile_of_completes (apart : (Part.run members :: more).IsChain Part.Precedes)
    (h : Completes paths before more text) : text.takeWhile (belongs members) = [] := by
  cases h with
  | finish => rfl
  | char _ =>
    obtain ⟨hprecedes, -⟩ := List.isChain_cons_cons.mp apart
    exact List.takeWhile_cons_of_neg (by simpa [Part.Precedes] using hprecedes)
  | value _ _ => exact (List.isChain_cons_cons.mp apart).1.elim
  | cut _ => rfl

/-- A run takes a value of it back where the text behind does not go on with its class. -/
theorem scan_run_append (isValue : IsValue paths before members value)
    (ends : text.takeWhile (belongs members) = []) :
    scan (.run members :: more) (value ++ text) =
      (scan more text).map fun (taken, left) => (value ++ taken, left) := by
  obtain ⟨nonempty, -, -, -, left, -, rfl⟩ := isValue
  have hall : ∀ c ∈ left.takeWhile (belongs members), belongs members c = true :=
    fun c => List.all_eq_true.mp List.all_takeWhile c
  have htake : (left.takeWhile (belongs members) ++ text).takeWhile (belongs members) =
      left.takeWhile (belongs members) := by
    rw [List.takeWhile_append_of_pos hall, ends, List.append_nil]
  have hdrop : (left.takeWhile (belongs members) ++ text).dropWhile (belongs members) = text := by
    have hwhole : text.takeWhile (belongs members) ++ text.dropWhile (belongs members) = text :=
      List.takeWhile_append_dropWhile
    rw [List.dropWhile_append_of_pos hall]
    rwa [ends, List.nil_append] at hwhole
  rw [scan_run_of_ne_nil (by rwa [htake]), htake, hdrop]

/-- A completion of parts is taken back in full by all of them, or by those in front of a run that
has no value. -/
theorem scan_of_completes {parts : List Part} (apart : parts.IsChain Part.Precedes)
    (h : Completes paths before parts text) :
    scan parts text = some (text, []) ∨
      ∃ front members back, parts = front ++ .run members :: back ∧
        (∀ value, ¬ IsValue paths (before ++ front) members value) ∧
        scan front text = some (text, []) := by
  induction h with
  | finish => exact .inl rfl
  | @char before more c text _ ih =>
    rcases ih apart.tail with hscan | ⟨front, members, back, rfl, noValue, hscan⟩
    · left
      rw [scan_char_cons, hscan]
      rfl
    · refine .inr ⟨.char c :: front, members, back, rfl, by simpa using noValue, ?_⟩
      rw [scan_char_cons, hscan]
      rfl
  | @value before more members value text isValue rest ih =>
    have ends := takeWhile_of_completes apart rest
    rcases ih apart.tail with hscan | ⟨front, others, back, rfl, noValue, hscan⟩
    · left
      rw [scan_run_append isValue ends, hscan]
      rfl
    · refine .inr ⟨.run members :: front, others, back, rfl, by simpa using noValue, ?_⟩
      rw [scan_run_append isValue ends, hscan]
      rfl
  | @cut before more members noValue =>
    exact .inr ⟨[], members, more, rfl, by simpa using noValue, rfl⟩

end Readback

end Pattern

namespace PatternTree

open Pattern (Part Span Delimited Completes IsValue WritesChar WritesMembers)

/-- Delimited patterns can always be put into one tree. After any paths have walked it, it offers
exactly what the parts of its patterns complete, so what it offers is matched in full by a pattern
or stops, with all in front of it matched, at a run that has no value. -/
theorem mem_completions_iff_completes (patterns : List (List Char))
    (delimited : ∀ pattern ∈ patterns, ∃ parts, Delimited pattern parts) :
    ∃ tree, empty.addAll patterns = .ok tree ∧ ∀ paths : List (List Char),
      (∀ text, text ∈ (tree.observeAll paths).completions ↔
        ∃ pattern ∈ patterns, ∃ parts, Delimited pattern parts ∧ Completes paths [] parts text) ∧
      ∀ text ∈ (tree.observeAll paths).completions, ∃ pattern ∈ patterns,
        Pattern.fits pattern text = true ∨
          ∃ front members back, Delimited pattern (front ++ .run members :: back) ∧
            (∀ value, ¬ IsValue paths front members value) ∧
            Pattern.scan front text = some (text, []) := by
  have accepted : ∀ pattern ∈ patterns, ∃ segments, Pattern.parse pattern = .ok segments := by
    intro pattern hpattern
    obtain ⟨parts, hparts⟩ := delimited pattern hpattern
    obtain ⟨inner, each, hparse, -⟩ := hparts.written
    exact ⟨_, hparse⟩
  obtain ⟨tree, htree, hholds⟩ := holds_empty.addAll accepted
  have hcompletes (paths : List (List Char)) (text : List Char) :
      text ∈ (tree.observeAll paths).completions ↔
        ∃ pattern ∈ patterns, ∃ parts, Delimited pattern parts ∧
          Completes paths [] parts text := by
    rw [hholds.mem_completions]
    constructor
    · rintro ⟨pattern, hpattern, segments, hsegments, offers⟩
      obtain ⟨parts, hparts⟩ := delimited pattern hpattern
      exact ⟨pattern, hpattern, parts, hparts,
        (Pattern.offers_iff_completes_of_delimited hparts hsegments).mp offers⟩
    · rintro ⟨pattern, hpattern, parts, hparts, completes⟩
      obtain ⟨segments, hsegments⟩ := accepted pattern hpattern
      exact ⟨pattern, hpattern, segments, hsegments,
        (Pattern.offers_iff_completes_of_delimited hparts hsegments).mpr completes⟩
  refine ⟨tree, htree, fun paths => ⟨hcompletes paths, fun text htext => ?_⟩⟩
  obtain ⟨pattern, hpattern, parts, hparts, completes⟩ := (hcompletes paths text).mp htext
  refine ⟨pattern, hpattern, ?_⟩
  rcases Pattern.scan_of_completes hparts.apart completes with
    hscan | ⟨front, members, back, rfl, noValue, hscan⟩
  · exact .inl (Pattern.fits_of_scan hparts hscan)
  · exact .inr ⟨front, members, back, hparts, noValue, hscan⟩

/-- A name that was seen for another attribute completes the pattern. -/
theorem mem_completions_iff_completes_parts :
    let pattern := "^parts\\.([a-z0-9-]+)\\.min$".toList
    (∀ p ∈ [pattern], ∃ parts, Delimited p parts) ∧
      ∃ tree, empty.addAll [pattern] = .ok tree ∧
        "parts.m-8.min".toList ∈ (tree.observeAll ["parts.m-8.max".toList]).completions := by
  intro pattern
  let members : List Span := [.through 'a' 'z', .through '0' '9', .one '-']
  let front : List Part := "parts.".toList.map .char
  let back : List Part := ".min".toList.map .char ++ []
  have plain {begins : Bool} {c : Char} (h : c ≠ '\\' ∧ c ≠ ']') : WritesChar begins c [c] :=
    .plain h.1 fun hc => absurd hc h.2
  have hyphen : WritesMembers false [.one '-'] (['-'] ++ []) :=
    .one (plain (by decide)) (by decide) .nil
  have digits : WritesMembers false [.through '0' '9', .one '-']
      (['0'] ++ '-' :: (['9'] ++ ['-'])) :=
    .through (plain (by decide)) (plain (by decide)) (by decide) hyphen
  have written : WritesMembers true members (['a'] ++ '-' :: (['z'] ++ "0-9-".toList)) :=
    .through (plain (by decide)) (plain (by decide)) (by decide) digits
  have run : Pattern.Writes ⟨.capture, "([a-z0-9-]+)".toList, []⟩ [.run members] :=
    .captured rfl (.mk written (by decide)) rfl
  have hdelimited : Delimited pattern (front ++ .run members :: back) := by
    let inner : List Segment := [.plain "parts".toList, ⟨.escapedMeta, "\\.".toList, ['.']⟩,
      ⟨.capture, "([a-z0-9-]+)".toList, []⟩, ⟨.escapedMeta, "\\.".toList, ['.']⟩,
      .plain "min".toList]
    let each : List (List Part) := ["parts".toList.map .char, [.char '.'], [.run members],
      [.char '.'], "min".toList.map .char]
    have hinner : List.Forall₂ Pattern.Writes inner each :=
      .cons (.fixed (.inl rfl)) (.cons (.fixed (.inr rfl)) (.cons run
        (.cons (.fixed (.inr rfl)) (.cons (.fixed (.inl rfl)) .nil))))
    exact ⟨⟨inner, each, eq_ok_of_toOption_eq_some (by decide +kernel), hinner, rfl⟩, by decide⟩
  have delimited : ∀ p ∈ [pattern], ∃ parts, Delimited p parts := by
    simpa using ⟨_, hdelimited⟩
  refine ⟨delimited, ?_⟩
  obtain ⟨tree, htree, h⟩ := mem_completions_iff_completes [pattern] delimited
  obtain ⟨hcompletes, -⟩ := h ["parts.m-8.max".toList]
  refine ⟨tree, htree, (hcompletes _).mpr ⟨pattern, by simp, _, hdelimited, ?_⟩⟩
  have isValue : IsValue ["parts.m-8.max".toList] front members "m-8".toList :=
    ⟨by decide, _, List.mem_singleton_self _, "parts.".toList, "m-8.max".toList,
      by decide +kernel, by decide⟩
  exact (Pattern.completes_chars_iff _).mpr ⟨_, .value isValue
    ((Pattern.completes_chars_iff _).mpr ⟨[], .finish, rfl⟩), rfl⟩

end PatternTree
end NextWord
