import NextWord.Proofs.Pattern.Spelling

/-!
# The items of a flat key

What stands between the anchors of a key is a sequence of items: plain characters, marks behind a
backslash, classes with an optional repetition, and groups that hold no group. Each kind of item is
a type of its own, whose values are written in one way. A reader takes what is written so, whatever
stands behind it as long as that starts no repetition, and takes nothing else.
-/

namespace NextWord.Pattern

variable {text taken left : List Char} {offset : Nat}

section Classes

/-- A member of a class: a character as it is, or any character behind a backslash. -/
inductive Member
  | plain (c : Char) (not_escape : c ≠ '\\') (not_close : c ≠ ']')
  | escaped (c : Char)

def Member.source : Member → List Char
  | .plain c _ _ => [c]
  | .escaped c => ['\\', c]

def membersSource (members : List Member) : List Char :=
  members.flatMap Member.source

/-- The first member of a class, a closing bracket if it is none of the other kind. -/
def firstSource (first : Option Member) : List Char :=
  first.elim [']'] Member.source

/-- A class in brackets. A closing bracket that comes first is a member, and a caret in front of
all members asks for the complement. -/
structure Bracketed where
  complement : Bool
  first : Option Member
  others : List Member
  positive : complement = false → firstSource first ≠ ['^']

def Bracketed.inside (class_ : Bracketed) : List Char :=
  (if class_.complement then ['^'] else []) ++
    (firstSource class_.first ++ (membersSource class_.others ++ [']']))

def Bracketed.source (class_ : Bracketed) : List Char :=
  '[' :: class_.inside

theorem membersSource_cons (member : Member) (members : List Member) :
    membersSource (member :: members) = member.source ++ membersSource members :=
  rfl

theorem takeMembers?_membersSource (members : List Member) (left : List Char) :
    takeMembers? (membersSource members ++ ']' :: left) = some (membersSource members ++ [']'], left) := by
  induction members with
  | nil => rfl
  | cons member members ih =>
    cases member with
    | plain c not_escape not_close =>
      change takeMembers? (c :: (membersSource members ++ ']' :: left)) = _
      rw [takeMembers?, if_neg not_close, ih]
      · rfl
      · rintro rfl
        exact absurd rfl not_escape
      · rintro d rest rfl
        exact absurd rfl not_escape
    | escaped c =>
      change takeMembers? ('\\' :: c :: (membersSource members ++ ']' :: left)) = _
      rw [takeMembers?, ih]
      rfl

theorem exists_of_takeMembers? (h : takeMembers? text = some (taken, left)) :
    ∃ members, taken = membersSource members ++ [']'] := by
  induction text using takeMembers?.induct generalizing taken with
  | case1 => cases h
  | case2 => cases h
  | case3 c rest ih =>
    obtain ⟨others, hothers, rfl⟩ := exists_of_map_append ['\\', c] h
    obtain ⟨members, rfl⟩ := ih hothers
    exact ⟨.escaped c :: members, rfl⟩
  | case4 rest =>
    obtain ⟨rfl, rfl⟩ := Prod.mk.inj (Option.some.inj h)
    exact ⟨[], rfl⟩
  | case5 c rest not_single not_escape hc ih =>
    rw [takeMembers?, if_neg hc] at h
    · obtain ⟨others, hothers, rfl⟩ := exists_of_map_append [c] h
      obtain ⟨members, rfl⟩ := ih hothers
      refine ⟨.plain c ?_ hc :: members, rfl⟩
      rintro rfl
      cases rest with
      | nil => exact not_single rfl rfl
      | cons d rest => exact not_escape d rest rfl rfl
    · exact not_single
    · exact not_escape

theorem takeFirstMember?_source (first : Option Member) (others : List Member)
    (left : List Char) :
    takeFirstMember? (firstSource first ++ (membersSource others ++ ']' :: left)) =
      some (firstSource first ++ (membersSource others ++ [']']), left) := by
  cases first with
  | none =>
    change (takeMembers? (membersSource others ++ ']' :: left)).map _ = _
    rw [takeMembers?_membersSource]
    rfl
  | some member =>
    have hmembers := takeMembers?_membersSource (member :: others) left
    rw [membersSource_cons, List.append_assoc, List.append_assoc] at hmembers
    rw [takeFirstMember?]
    · exact hmembers
    · rintro rest heq
      cases member with
      | plain c _ not_close => exact not_close (List.cons.inj heq).1
      | escaped c => exact absurd (List.cons.inj heq).1 (by decide)

theorem exists_of_takeFirstMember? (h : takeFirstMember? text = some (taken, left)) :
    ∃ first others, taken = firstSource first ++ (membersSource others ++ [']']) := by
  unfold takeFirstMember? at h
  split at h
  · obtain ⟨rest, hrest, rfl⟩ := exists_of_map_append [']'] h
    obtain ⟨others, rfl⟩ := exists_of_takeMembers? hrest
    exact ⟨none, others, rfl⟩
  · next not_close =>
    obtain ⟨members, rfl⟩ := exists_of_takeMembers? h
    cases members with
    | nil => exact absurd (append_of_takeMembers? h) (not_close left)
    | cons member others => exact ⟨some member, others, List.append_assoc _ _ _⟩

theorem takeClass?_inside (class_ : Bracketed) (left : List Char) :
    takeClass? (class_.inside ++ left) = some (class_.inside, left) := by
  obtain ⟨complement, first, others, positive⟩ := class_
  have hfirst := takeFirstMember?_source first others left
  cases complement with
  | true =>
    have hinside : Bracketed.inside ⟨true, first, others, positive⟩ ++ left =
        '^' :: (firstSource first ++ (membersSource others ++ ']' :: left)) := by
      simp [Bracketed.inside]
    rw [hinside, takeClass?, hfirst]
    rfl
  | false =>
    have hinside : Bracketed.inside ⟨false, first, others, positive⟩ ++ left =
        firstSource first ++ (membersSource others ++ ']' :: left) := by
      simp [Bracketed.inside]
    rw [hinside, takeClass?, hfirst]
    · rfl
    · intro rest heq
      match first with
      | none => exact absurd (List.cons.inj heq).1 (by decide)
      | some (.plain c _ _) => exact positive rfl (congrArg (fun d => [d]) (List.cons.inj heq).1)
      | some (.escaped c) => exact absurd (List.cons.inj heq).1 (by decide)

theorem exists_of_takeClass? (h : takeClass? text = some (taken, left)) :
    ∃ class_ : Bracketed, taken = class_.inside := by
  unfold takeClass? at h
  split at h
  · obtain ⟨rest, hrest, rfl⟩ := exists_of_map_append ['^'] h
    obtain ⟨first, others, rfl⟩ := exists_of_takeFirstMember? hrest
    exact ⟨⟨true, first, others, nofun⟩, rfl⟩
  · next not_caret =>
    obtain ⟨first, others, rfl⟩ := exists_of_takeFirstMember? h
    have htext := append_of_takeFirstMember? h
    refine ⟨⟨false, first, others, fun _ hfirst => ?_⟩, rfl⟩
    rw [hfirst] at htext
    exact not_caret _ htext

end Classes

section Repetitions

def greedSource : Greed → List Char
  | .greedy => []
  | .lazy => ['?']
  | .possessive => ['+']

/-- How a class is repeated: not at all, by a mark, or by bounds in braces, digits with one comma at
most. -/
inductive Repetition
  | once
  | mark (c : Char) (isMark : c = '*' ∨ c = '+' ∨ c = '?') (greed : Greed)
  | bounds (content : List Char) (digits : ∀ c ∈ content, Text.isDigit c = true ∨ c = ',')
      (oneComma : content.count ',' ≤ 1) (greed : Greed)

def Repetition.source : Repetition → List Char
  | .once => []
  | .mark c _ greed => c :: greedSource greed
  | .bounds content _ _ greed => '\x7b' :: (content ++ '\x7d' :: greedSource greed)

/-- No repetition starts here. -/
def Settled (text : List Char) : Prop :=
  text.head?.any isQuantifier = false

theorem takeGreed_greedSource (greed : Greed) (settled : Settled left) :
    takeGreed (greedSource greed ++ left) = (greedSource greed, left) := by
  cases greed with
  | greedy =>
    cases left with
    | nil => rfl
    | cons c left =>
      have hc : ¬ (c = '?' ∨ c = '+') := by
        rintro (rfl | rfl) <;> cases settled
      exact if_neg hc
  | lazy => rfl
  | possessive => rfl

theorem exists_takeGreed (text : List Char) : ∃ greed, (takeGreed text).1 = greedSource greed := by
  fun_cases takeGreed text with
  | case1 c rest hc =>
    rcases hc with rfl | rfl
    · exact ⟨.lazy, rfl⟩
    · exact ⟨.possessive, rfl⟩
  | case2 c rest hc => exact ⟨.greedy, rfl⟩
  | case3 => exact ⟨.greedy, rfl⟩

theorem takeQuantifier_source (repetition : Repetition) (settled : Settled left) :
    takeQuantifier offset (repetition.source ++ left) = .ok (repetition.source, left) := by
  cases repetition with
  | once =>
    cases left with
    | nil => rfl
    | cons c left =>
      have hc : (!isQuantifier c) = true := by
        rw [Bool.not_eq_true']
        exact settled
      exact if_pos hc
  | mark c isMark greed =>
    change takeQuantifier offset (c :: (greedSource greed ++ left)) = _
    have hbrace : c ≠ '\x7b' := by
      rintro rfl
      revert isMark
      decide
    have hmark : ¬ (!isQuantifier c) = true := by
      rcases isMark with rfl | rfl | rfl <;> decide
    rw [takeQuantifier, if_neg hmark, if_neg hbrace, takeGreed_greedSource greed settled]
    rfl
  | bounds content digits oneComma greed =>
    have hopen : ∀ c ∈ content, (c != '\x7d') = true := by
      intro c hc
      rw [bne_iff_ne]
      rintro rfl
      exact absurd (digits _ hc) (by decide)
    have hsource : Repetition.source (.bounds content digits oneComma greed) ++ left =
        '\x7b' :: (content ++ '\x7d' :: (greedSource greed ++ left)) := by
      simp [Repetition.source]
    have hbounds : isBounds content = true := by
      simpa [isBounds] using And.intro digits oneComma
    have hcontent (rest : List Char) : (content ++ '\x7d' :: rest).takeWhile (· != '\x7d') =
        content := by
      rw [List.takeWhile_append_of_pos hopen]
      exact List.append_nil _
    have hrest (rest : List Char) : (content ++ '\x7d' :: rest).dropWhile (· != '\x7d') =
        '\x7d' :: rest :=
      List.dropWhile_append_of_pos hopen
    have hmark : ¬ (!isQuantifier '\x7b') = true := by decide
    rw [hsource, takeQuantifier, if_neg hmark, if_pos rfl]
    dsimp only
    rw [hcontent, hrest]
    dsimp only
    rw [if_pos hbounds, takeGreed_greedSource greed settled]
    rfl

theorem exists_of_takeQuantifier (h : takeQuantifier offset text = .ok (taken, left)) :
    ∃ repetition : Repetition, taken = repetition.source := by
  cases text with
  | nil =>
    obtain ⟨rfl, -⟩ := Prod.mk.inj (Except.ok.inj h)
    exact ⟨.once, rfl⟩
  | cons c rest =>
    rw [takeQuantifier] at h
    split at h
    · obtain ⟨rfl, -⟩ := Prod.mk.inj (Except.ok.inj h)
      exact ⟨.once, rfl⟩
    next hmark =>
    split at h
    · next hc =>
      dsimp only at h
      split at h
      · cases h
      next close behind hclose =>
      split at h
      · next hbounds =>
        obtain ⟨greed, hgreed⟩ := exists_takeGreed behind
        obtain ⟨rfl, -⟩ := Prod.mk.inj (Except.ok.inj h)
        obtain ⟨digits, oneComma⟩ := by simpa [isBounds] using hbounds
        obtain rfl : close = '\x7d' := by
          have hfirst := List.head?_dropWhile_not (· != '\x7d') rest
          rw [hclose] at hfirst
          simpa using hfirst
        refine ⟨.bounds _ digits oneComma greed, ?_⟩
        rw [hgreed, hc]
        rfl
      · cases h
    · next hc =>
      dsimp only at h
      obtain ⟨rfl, -⟩ := Prod.mk.inj (Except.ok.inj h)
      obtain ⟨greed, hgreed⟩ := exists_takeGreed rest
      have isMark : c = '*' ∨ c = '+' ∨ c = '?' := by
        have hmark := isQuantifier_iff.mp (by simpa using hmark)
        simpa [hc] using hmark
      exact ⟨.mark c isMark greed, congrArg (c :: ·) hgreed⟩

end Repetitions

section Groups

/-- A part of a group: a class, any character behind a backslash, or a character as it is. -/
inductive GroupPart
  | plain (c : Char) (isPlain : c ∉ ['\\', '[', '(', '.', ')'])
  | escaped (c : Char)
  | class_ (brackets : Bracketed)

def GroupPart.source : GroupPart → List Char
  | .plain c _ => [c]
  | .escaped c => ['\\', c]
  | .class_ brackets => brackets.source

def partsSource (parts : List GroupPart) : List Char :=
  parts.flatMap GroupPart.source

/-- What belongs to an escape or a class is taken as it is. -/
theorem takeGroup_skipped {start : Nat} {others : List Char} (skipped : List Char)
    (h : ∀ offset, takeGroup start 0 offset text = .ok (others, left)) (offset : Nat) :
    takeGroup start skipped.length offset (skipped ++ text) = .ok (skipped ++ others, left) := by
  induction skipped generalizing offset with
  | nil => exact h offset
  | cons c skipped ih =>
    change prepend c (takeGroup start skipped.length (offset + 1) (skipped ++ text)) = _
    rw [ih]
    rfl

theorem takeGroup_partsSource (start : Nat) (parts : List GroupPart) (left : List Char)
    (offset : Nat) : takeGroup start 0 offset (partsSource parts ++ ')' :: left) =
      .ok (partsSource parts ++ [')'], left) := by
  induction parts generalizing offset with
  | nil => rfl
  | cons part parts ih =>
    cases part with
    | plain c isPlain =>
      change takeGroup start 0 offset (c :: (partsSource parts ++ ')' :: left)) = _
      simp only [List.mem_cons, List.not_mem_nil, or_false, not_or] at isPlain
      obtain ⟨not_escape, not_class, not_group, not_dot, not_close⟩ := isPlain
      rw [takeGroup, if_neg not_escape, if_neg not_class, if_neg not_group, if_neg not_dot,
        if_neg not_close, ih]
      rfl
    | escaped c =>
      change prepend '\\' (takeGroup start [c].length _ ([c] ++ (partsSource parts ++ ')' :: left))) = _
      rw [takeGroup_skipped [c] ih]
      rfl
    | class_ brackets =>
      have hsource : partsSource (.class_ brackets :: parts) ++ ')' :: left =
          '[' :: (brackets.inside ++ (partsSource parts ++ ')' :: left)) :=
        List.append_assoc _ _ _
      rw [hsource, takeGroup, if_neg (by decide), if_pos rfl, takeClass?_inside]
      dsimp only
      rw [takeGroup_skipped brackets.inside ih]
      exact congrArg (fun taken => Except.ok (taken, left))
        (List.append_assoc brackets.source (partsSource parts) [')']).symm

theorem exists_of_prepend {c : Char} {read : Except PatternFault (List Char × List Char)}
    (h : prepend c read = .ok (taken, left)) : ∃ others, read = .ok (others, left) ∧
      taken = c :: others := by
  cases read with
  | error fault => cases h
  | ok read =>
    obtain ⟨rfl, rfl⟩ := Prod.mk.inj (Except.ok.inj h)
    exact ⟨read.1, rfl, rfl⟩

/-- What a group takes behind the characters that are skipped. -/
theorem exists_of_takeGroup {start skip : Nat}
    (h : takeGroup start skip offset text = .ok (taken, left)) :
    ∃ skipped parts, skipped.length = skip ∧ taken = skipped ++ (partsSource parts ++ [')']) := by
  induction text generalizing skip offset taken with
  | nil =>
    rw [takeGroup] at h
    cases h
  | cons c rest ih =>
    have goes_on {skip offset : Nat} {others : List Char}
        (h : prepend c (takeGroup start skip offset rest) = .ok (others, left)) :
        ∃ skipped parts, skipped.length = skip ∧
          others = c :: (skipped ++ (partsSource parts ++ [')'])) := by
      obtain ⟨more, hmore, rfl⟩ := exists_of_prepend h
      obtain ⟨skipped, parts, hskipped, rfl⟩ := ih hmore
      exact ⟨skipped, parts, hskipped, rfl⟩
    cases skip with
    | succ skip =>
      obtain ⟨skipped, parts, hskipped, rfl⟩ := goes_on h
      exact ⟨c :: skipped, parts, congrArg (· + 1) hskipped, rfl⟩
    | zero =>
      have hwhole := append_of_takeGroup h
      rw [takeGroup] at h
      refine (?_ : ∃ parts, taken = partsSource parts ++ [')']).elim fun parts hparts =>
        ⟨[], parts, rfl, hparts⟩
      split at h
      · next hc =>
        obtain ⟨skipped, parts, hskipped, rfl⟩ := goes_on h
        obtain ⟨d, rfl⟩ := List.length_eq_one_iff.mp hskipped
        exact ⟨.escaped d :: parts, by rw [hc]; rfl⟩
      next not_escape =>
      split at h
      · next hc =>
        split at h
        · next members behind hclass =>
          obtain ⟨skipped, parts, hskipped, rfl⟩ := goes_on h
          -- What is skipped next is the class that was read ahead.
          have hrest : members ++ behind = skipped ++ (partsSource parts ++ [')'] ++ left) := by
            rw [← append_of_takeClass? hclass, ← List.append_assoc]
            exact (List.cons.inj hwhole).2
          obtain rfl := List.append_inj_left hrest hskipped.symm
          obtain ⟨brackets, rfl⟩ := exists_of_takeClass? hclass
          refine ⟨.class_ brackets :: parts, ?_⟩
          rw [hc]
          exact (List.append_assoc brackets.source (partsSource parts) [')']).symm
        · cases h
      next not_class =>
      split at h
      · cases h
      next not_group =>
      split at h
      · cases h
      next not_dot =>
      split at h
      · next hc =>
        obtain ⟨rfl, -⟩ := Prod.mk.inj (Except.ok.inj h)
        exact ⟨[], by rw [hc]; rfl⟩
      · next not_close =>
        obtain ⟨skipped, parts, hskipped, rfl⟩ := goes_on h
        obtain rfl := List.length_eq_zero_iff.mp hskipped
        have isPlain : c ∉ ['\\', '[', '(', '.', ')'] := by
          simp [not_escape, not_class, not_group, not_dot, not_close]
        exact ⟨.plain c isPlain :: parts, rfl⟩

end Groups

section Items

def classLetters : List Char :=
  ['d', 'D', 's', 'S', 'w', 'W']

inductive Item
  | plain (c : Char) (isPlain : Pattern.isPlain c = true)
  | mark (c : Char) (isMark : Text.isAlphanumeric c = false)
  | escapedClass (c : Char) (isClass : c ∈ classLetters) (repetition : Repetition)
  | class_ (brackets : Bracketed) (repetition : Repetition)
  | group (parts : List GroupPart)

namespace Item

def source : Item → List Char
  | .plain c _ => [c]
  | .mark c _ => ['\\', c]
  | .escapedClass c _ repetition => '\\' :: c :: repetition.source
  | .class_ brackets repetition => brackets.source ++ repetition.source
  | .group parts => '(' :: (partsSource parts ++ [')'])

def segment : Item → Segment
  | .plain c _ => Segment.plain [c]
  | .mark c _ => ⟨.escapedMeta, ['\\', c], [c]⟩
  | .escapedClass c _ repetition => ⟨.charClass, '\\' :: c :: repetition.source, []⟩
  | .class_ brackets repetition => ⟨.charClass, brackets.source ++ repetition.source, []⟩
  | .group parts => ⟨.capture, '(' :: (partsSource parts ++ [')']), []⟩

end Item

def sources (items : List Item) : List Char :=
  items.flatMap Item.source

theorem sources_cons (item : Item) (items : List Item) :
    sources (item :: items) = item.source ++ sources items :=
  rfl

theorem sources_append (first second : List Item) :
    sources (first ++ second) = sources first ++ sources second :=
  List.flatMap_append

theorem settled_of_isPlain {c : Char} (h : isPlain c = true) (left : List Char) :
    Settled (c :: left) := by
  simp only [isPlain, Bool.not_eq_true', Bool.or_eq_false_iff] at h
  exact h.2

/-- No item starts with a repetition, so one that follows another leaves that as it is. -/
theorem settled_sources (items : List Item) : Settled (sources items) := by
  cases items with
  | nil => rfl
  | cons item items =>
    cases item with
    | plain c isPlain => exact settled_of_isPlain isPlain _
    | mark | escapedClass | class_ | group => rfl

theorem isSome_classEscape?_iff {c : Char} :
    (Regex.classEscape? c).isSome = true ↔ c ∈ classLetters := by
  rw [Regex.classEscape?.eq_def]
  split
  all_goals simp_all [classLetters]

/-- A letter of a class is no mark. -/
theorem not_isSome_classEscape? {c : Char} (isMark : Text.isAlphanumeric c = false) :
    ¬ (Regex.classEscape? c).isSome = true := by
  intro isClass
  have letters : classLetters.all Char.isAlphanum = true := by decide
  have hletter := List.all_eq_true.mp letters c (isSome_classEscape?_iff.mp isClass)
  simp [Text.isAlphanumeric_of_isAlphanum hletter] at isMark

theorem takeSegment_source {item : Item} (hkind : item.segment.kind ≠ .literal)
    (settled : Settled left) (offset : Nat) : ∃ c more, item.source = c :: more ∧
      takeSegment offset c (more ++ left) = .ok (item.segment, left) := by
  cases item with
  | plain => exact absurd rfl hkind
  | mark c isMark =>
    refine ⟨'\\', [c], rfl, ?_⟩
    change takeEscape offset (c :: left) = _
    unfold takeEscape
    dsimp only
    rw [if_neg (not_isSome_classEscape? isMark), if_neg (by simp [isMark])]
    cases left with
    | nil => rfl
    | cons q left => exact if_neg (by simpa [Settled] using settled)
  | escapedClass c isClass repetition =>
    refine ⟨'\\', c :: repetition.source, rfl, ?_⟩
    change takeEscape offset (c :: (repetition.source ++ left)) = _
    unfold takeEscape
    dsimp only
    rw [if_pos (isSome_classEscape?_iff.mpr isClass), takeQuantifier_source repetition settled]
    rfl
  | class_ brackets repetition =>
    refine ⟨'[', brackets.inside ++ repetition.source, rfl, ?_⟩
    rw [takeSegment, if_neg (by decide), if_pos rfl, List.append_assoc, takeClass?_inside]
    dsimp only
    rw [takeQuantifier_source repetition settled]
    rfl
  | group parts =>
    refine ⟨'(', partsSource parts ++ [')'], rfl, ?_⟩
    rw [takeSegment, if_neg (by decide), if_neg (by decide), if_pos rfl, List.append_assoc,
      List.singleton_append, takeGroup_partsSource]
    exact if_neg (by simpa [Settled] using settled)

theorem exists_plain_items {text : List Char} (h : ∀ c ∈ text, isPlain c = true) :
    ∃ items, text = sources items := by
  induction text with
  | nil => exact ⟨[], rfl⟩
  | cons c text ih =>
    obtain ⟨hc, htext⟩ := List.forall_mem_cons.mp h
    obtain ⟨items, hitems⟩ := ih htext
    exact ⟨.plain c hc :: items, congrArg (c :: ·) hitems⟩

/-- What is taken as a segment is written by items. -/
theorem exists_items_of_takeSegment {c : Char} {rest : List Char} {s : Segment}
    (h : takeSegment offset c rest = .ok (s, left)) : ∃ items, s.source = sources items := by
  have inner := isInner_of_takeSegment h
  have single (item : Item) : item.source = sources [item] := (List.append_nil _).symm
  cases takes_of_takeSegment h with
  | @escapedClass c _ _ _ isClass repeated =>
    obtain ⟨repetition, rfl⟩ := exists_of_takeQuantifier repeated
    exact ⟨_, single (.escapedClass c (isSome_classEscape?_iff.mp isClass) repetition)⟩
  | @mark c _ _ isMark _ => exact ⟨_, single (.mark c isMark)⟩
  | class_ isClass repeated =>
    obtain ⟨brackets, rfl⟩ := exists_of_takeClass? isClass
    obtain ⟨repetition, rfl⟩ := exists_of_takeQuantifier repeated
    exact ⟨_, single (.class_ brackets repetition)⟩
  | group isGroup _ =>
    obtain ⟨skipped, parts, hskipped, rfl⟩ := exists_of_takeGroup isGroup
    obtain rfl := List.length_eq_zero_iff.mp hskipped
    exact ⟨_, single (.group parts)⟩
  | plain _ => exact exists_plain_items (inner.plain rfl).2

end Items

end NextWord.Pattern
