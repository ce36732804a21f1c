import NextWord.Predicate.Visibility
import NextWord.Proofs.Environment.Overwriting
import NextWord.Proofs.Outcome
import NextWord.Proofs.Path.Instances
import NextWord.Proofs.Predicate.Induction
import NextWord.Proofs.Predicate.Scanned

/-!
# What a visibility decision depends on

The decision about an attribute reads the state through the names of its predicate only. Entries
that start at another name can be dropped, added or moved without changing the answer, a fault
included. Within an array the dependence is finer still: a predicate that mentions the array only at
the index name reads, for a path that starts with one element, that element alone.

Both statements compare two states. They say nothing about a single one, in particular not that a
decision is reached without a fault.
-/

namespace NextWord

open NextWord.Path (split)
open Text (isDigit readNat writeNat)

namespace Expr

/-- Evaluation reads the environment at the names of the expression only. -/
theorem eval_congr {env env' : Environment} (e : Expr)
    (h : ∀ text ∈ e.names, env.find? (.name text) = env'.find? (.name text)) :
    eval env e = eval env' e := by
  induction e with
  | literal v => rfl
  | array items ih =>
    have hitems := evalAll_congr fun e he =>
      ih e he fun text ht => h text (mem_namesOfAll.mpr ⟨e, he, ht⟩)
    rw [eval, eval, hitems]
  | name text => rw [eval, eval, h text List.mem_cons_self]
  | member target field isOptional ih => rw [eval, eval, ih h]
  | index target place isOptional iht ihp =>
    rw [eval, eval, iht fun text ht => h text (List.mem_append_left _ ht),
      ihp fun text ht => h text (List.mem_append_right _ ht)]
  | unary op operand ih => rw [eval, eval, ih h]
  | binary op left right ihl ihr =>
    rw [eval, eval, ihl fun text ht => h text (List.mem_append_left _ ht),
      ihr fun text ht => h text (List.mem_append_right _ ht)]

def isName (text : String) : Expr → Bool
  | .name other => other == text
  | _ => false

mutual

/-- Whether a name occurs only as an array that is accessed at the index name. -/
def onlyIndexed (array : String) : Expr → Bool
  | .literal _ => true
  | .array items => onlyIndexedAll array items
  | .name text => text != array
  | .member target _ _ => onlyIndexed array target
  | .index target place _ =>
    ((target.isName array && place.isIndexName) || onlyIndexed array target) &&
      onlyIndexed array place
  | .unary _ operand => onlyIndexed array operand
  | .binary _ left right => onlyIndexed array left && onlyIndexed array right

def onlyIndexedAll (array : String) : List Expr → Bool
  | [] => true
  | e :: es => onlyIndexed array e && onlyIndexedAll array es

end

theorem eq_name_of_isName {text : String} {e : Expr} (h : e.isName text = true) :
    e = .name text := by
  cases e with
  | name other => rw [eq_of_beq h]
  | _ => cases h

theorem eq_name_of_isIndexName {e : Expr} (h : e.isIndexName = true) : e = .name indexName := by
  cases e with
  | name other => rw [eq_of_beq h]
  | _ => cases h

theorem onlyIndexed_of_mem {array : String} {items : List Expr}
    (h : onlyIndexedAll array items = true) : ∀ e ∈ items, onlyIndexed array e = true := by
  induction items with
  | nil => intro e he; exact absurd he List.not_mem_nil
  | cons first items ih =>
    rw [onlyIndexedAll, Bool.and_eq_true] at h
    intro e he
    rcases List.mem_cons.mp he with rfl | he
    · exact h.1
    · exact ih h.2 e he

end Expr

/-- Whether a path starts with one element of an array: the name of the array, and the number of
the element in brackets. -/
def Path.StartsAt (array : List Char) (i : Nat) (path : List Char) : Prop :=
  ∃ digits rest, path = array ++ ('[' :: digits ++ ']' :: rest) ∧ digits ≠ [] ∧
    (∀ d ∈ digits, isDigit d = true) ∧ readNat digits = i

namespace Expr

/-- The index name behind an array stands for the element that the path starts with. -/
theorem placeIn?_of_startsAt {array : String} (hname : '[' ∉ array.toList) {i : Nat}
    {path : List Char} (hpath : Path.StartsAt array.toList i path) (isOptional : Bool) :
    placeIn? (.index (.name array) (.name indexName) isOptional) path = some i := by
  obtain ⟨digits, rest, rfl, hne, hdigits, rfl⟩ := hpath
  have hreference : reference? (.index (.name array) (.name indexName) isOptional) =
      some (array ++ "[n]") := by
    simp [reference?]
  have htemplate : (array ++ "[n]").toList = array.toList ++ Path.hole := by
    simp [Path.hole]
  simp only [placeIn?, hreference, htemplate, Path.Template.read?_hole hname hne hdigits,
    List.getLast?_singleton]

/-- A predicate that mentions an array only at the index name reads, for a path that starts with
one of its elements, that element and the other names. -/
theorem eval_forPath_congr {array : String} (hname : '[' ∉ array.toList) {i : Nat}
    {path : List Char} (hpath : Path.StartsAt array.toList i path) {env env' : Environment}
    (hother : ∀ text, text ≠ array → env.find? (.name text) = env'.find? (.name text))
    (helement : Eval.access ((env.find? (.name array)).getD .absent) (.int i) true =
      Eval.access ((env'.find? (.name array)).getD .absent) (.int i) true)
    (e : Expr) (honly : e.onlyIndexed array = true) :
    eval env (forPath path e) = eval env' (forPath path e) := by
  induction e with
  | literal v => rfl
  | array items ih =>
    have hitems : evalAll env (items.map (forPath path)) =
        evalAll env' (items.map (forPath path)) := by
      apply evalAll_congr
      intro e he
      obtain ⟨item, hitem, rfl⟩ := List.mem_map.mp he
      exact ih item hitem (onlyIndexed_of_mem honly item hitem)
    rw [forPath, forPathAll_eq_map, eval, eval, hitems]
  | name text =>
    have hne : text ≠ array := by simpa [onlyIndexed] using honly
    rw [forPath, eval, eval, hother text hne]
  | member target field isOptional ih =>
    rw [forPath, eval, eval, ih honly]
  | index target place isOptional iht ihp =>
    rw [onlyIndexed, Bool.and_eq_true, Bool.or_eq_true, Bool.and_eq_true] at honly
    obtain ⟨htarget, hplace⟩ := honly
    rw [forPath]
    -- Only the index name is replaced; any other place is evaluated as it stands.
    by_cases hindex : place.isIndexName = true
    · cases eq_name_of_isIndexName hindex
      rw [if_pos hindex]
      rcases htarget with ⟨hname', -⟩ | htarget
      · cases eq_name_of_isName hname'
        rw [filledPlace, placeIn?_of_startsAt hname hpath]
        exact helement
      · -- The number put in for another target is the same on both sides, if there is one.
        have hfilled : eval env (filledPlace (.index target (.name indexName) isOptional)
            (.name indexName) path) = eval env' (filledPlace
            (.index target (.name indexName) isOptional) (.name indexName) path) := by
          rw [filledPlace]
          split
          · rfl
          · exact ihp hplace
        rw [eval, eval, iht htarget, hfilled]
    · have htarget' : onlyIndexed array target = true :=
        htarget.resolve_left fun h => hindex h.2
      rw [if_neg hindex, eval, eval, iht htarget', ihp hplace]
  | unary op operand ih => rw [forPath, eval, eval, ih honly]
  | binary op left right ihl ihr =>
    rw [onlyIndexed, Bool.and_eq_true] at honly
    rw [forPath, eval, eval, ihl honly.1, ihr honly.2]

end Expr

namespace Predicate

/-- The names that the decision about an attribute reads for a path. -/
def namesRead (a : Attribute) (path : String) : List String :=
  match ofAttribute a with
  | .ok (some e) => (e.forPath path.toList).names
  | _ => []

def startsAmong (names : List String) (entry : String × Value) : Bool :=
  match split entry.1 with
  | .name text :: _ => names.contains text
  | _ => false

/-- Whether an entry is about another element of an array than the one in question. -/
def isOtherElement (array : String) (i : Nat) (entry : String × Value) : Bool :=
  match split entry.1 with
  | .name text :: .index j :: _ => text == array && j != i
  | _ => false

def IsOfElement (array : String) (entry : String × Value) : Prop :=
  ∀ keys, split entry.1 = .name array :: keys → ∃ j more, keys = .index j :: more

def MentionsOnlyIndexed (a : Attribute) (array : String) : Prop :=
  ∀ e, ofAttribute a = .ok (some e) → e.onlyIndexed array = true

theorem isVisible_congr {env env' : Environment} {a : Attribute} {path : String}
    (h : ∀ e, ofAttribute a = .ok (some e) →
      (e.forPath path.toList).eval env = (e.forPath path.toList).eval env') :
    isVisible env a path = isVisible env' a path := by
  rw [isVisible, isVisible]
  split
  · rfl
  · next predicate hread =>
    cases predicate with
    | none => rfl
    | some e => rw [decideFor, decideFor, h e hread]

end Predicate

theorem Judge.decide_ofState (known supplied : Entries) (a : Attribute) (path : String) :
    ((ofState known supplied).decide a path).2 =
      Predicate.isVisible (.build known supplied) a path := by
  rw [decide, predicateOf, Predicate.isVisible]
  cases hread : Predicate.ofAttribute a with
  | error fault => rfl
  | ok predicate => rfl

namespace Environment

/-- Two states that agree on the entries starting among some names agree at these names. -/
theorem find?_build_congr_of_startsAmong {names : List String} {text : String}
    (htext : text ∈ names) {known supplied known' supplied' : Entries}
    (h : (known ++ supplied).filter (Predicate.startsAmong names) =
      (known' ++ supplied').filter (Predicate.startsAmong names)) :
    (build known supplied).find? (.name text) = (build known' supplied').find? (.name text) := by
  have hkeep : ∀ entry : String × Value, [Key.name text] <+: split entry.1 →
      Predicate.startsAmong names entry = true := by
    rintro entry ⟨rest, hrest⟩
    rw [Predicate.startsAmong, ← hrest]
    simpa using htext
  exact read?_build_congr (List.cons_ne_nil _ _) hkeep
    (fun entry _ => spares_singleton _ entry) (fun entry _ => spares_singleton _ entry) h

variable {array : String} {i : Nat} {known supplied known' supplied' : Entries}

/-- Entries about other elements of an array are not seen at any other name. -/
theorem find?_build_congr_of_ne {text : String} (htext : text ≠ array)
    (h : (known ++ supplied).filter (fun entry => !Predicate.isOtherElement array i entry) =
      (known' ++ supplied').filter (fun entry => !Predicate.isOtherElement array i entry)) :
    (build known supplied).find? (.name text) = (build known' supplied').find? (.name text) := by
  have hkeep : ∀ entry : String × Value, [Key.name text] <+: split entry.1 →
      (!Predicate.isOtherElement array i entry) = true := by
    rintro entry ⟨rest, hrest⟩
    rw [Predicate.isOtherElement, ← hrest]
    cases rest with
    | nil => rfl
    | cons key rest => cases key <;> simp [htext]
  exact read?_build_congr (List.cons_ne_nil _ _) hkeep
    (fun entry _ => spares_singleton _ entry) (fun entry _ => spares_singleton _ entry) h

theorem spares_of_isOfElement {entry : String × Value} (h : Predicate.IsOfElement array entry) :
    Spares [.name array, .index i] entry := by
  intro hprefix
  rcases List.prefix_cons_iff.mp hprefix with hnil | ⟨rest, hrest, hprefix⟩
  · exact Or.inl hnil
  · obtain ⟨j, more, rfl⟩ := h rest hrest
    have hj := (List.cons_prefix_cons.mp hprefix)
    rw [hrest, hj.1, List.prefix_nil.mp hj.2]
    exact Or.inr rfl

/-- Entries about other elements of an array are not seen at the element in question. -/
theorem read?_build_congr_of_isOfElement
    (helements : ∀ entry ∈ known ++ supplied, Predicate.IsOfElement array entry)
    (helements' : ∀ entry ∈ known' ++ supplied', Predicate.IsOfElement array entry)
    (h : (known ++ supplied).filter (fun entry => !Predicate.isOtherElement array i entry) =
      (known' ++ supplied').filter (fun entry => !Predicate.isOtherElement array i entry)) :
    read? [.name array, .index i] (build known supplied) =
      read? [.name array, .index i] (build known' supplied') := by
  have hkeep : ∀ entry : String × Value, [Key.name array, Key.index i] <+: split entry.1 →
      (!Predicate.isOtherElement array i entry) = true := by
    rintro entry ⟨rest, hrest⟩
    rw [Predicate.isOtherElement, ← hrest]
    simp
  exact read?_build_congr (List.cons_ne_nil _ _) hkeep
    (fun entry he => spares_of_isOfElement (helements entry he))
    (fun entry he => spares_of_isOfElement (helements' entry he)) h

/-- Optional access to an element of an array that only entries about elements built. -/
theorem access_build_of_isOfElement
    (helements : ∀ entry ∈ known ++ supplied, Predicate.IsOfElement array entry) :
    Eval.access (((build known supplied).find? (.name array)).getD .absent) (.int i) true =
      .ok ((read? [.name array, .index i] (build known supplied)).getD .absent) := by
  have hobject : ObjectIfAny ((build known supplied).find? (.name array)) := by
    apply find?_build_objectIfAny
    intro entry he hkeys
    obtain ⟨j, more, hmore⟩ := helements entry he [] hkeys
    cases hmore
  rw [read?_cons_cons]
  cases hfound : (build known supplied).find? (.name array) with
  | none => rfl
  | some v =>
    obtain ⟨entries, rfl⟩ := hobject v hfound
    simp [Eval.access, Value.isHashable, Value.toKey?, objectOf, read?]

end Environment

namespace Predicate

/-- An attribute of the elements of an array, for listed kits only. -/
def kitParts : Attribute :=
  { key := "items[n].parts", when := "items[n].type in ['kit']", conditions := ["listed"] }

theorem ofAttribute_kitParts :
    ofAttribute kitParts = .ok (some (.binary .and
      (.binary .member (.member (.index (.name "items") (.name "n") false) "type" false)
        (.array [.literal (.str "kit")]))
      (.name "listed"))) := by
  have hscan : scan "items[n].type in ['kit']".toList =
      .ok [⟨.word, "items", 0⟩, ⟨.sign, "[", 5⟩, ⟨.word, "n", 6⟩, ⟨.sign, "]", 7⟩, ⟨.sign, ".", 8⟩,
        ⟨.word, "type", 9⟩, ⟨.word, "in", 14⟩, ⟨.sign, "[", 17⟩, ⟨.string, "'kit'", 18⟩,
        ⟨.sign, "]", 23⟩] := eq_ok_of_toOption_eq_some (by decide +kernel)
  have hscan' : scan "listed".toList = .ok [⟨.word, "listed", 0⟩] :=
    eq_ok_of_toOption_eq_some (by decide +kernel)
  have hwhen : read "items[n].type in ['kit']" = .ok (.binary .member
      (.member (.index (.name "items") (.name "n") false) "type" false)
        (.array [.literal (.str "kit")])) := by
    rw [read, parse, hscan]
    rfl
  have hconditions : read "listed" = .ok (.name "listed") := by
    rw [read, parse, hscan']
    rfl
  have hblank : Attribute.isBlankCondition "items[n].type in ['kit']" = false := by decide
  have hblank' : Attribute.isBlankCondition "listed" = false := by decide
  simp [ofAttribute, kitParts, readAll, hblank, hblank', hwhen, hconditions, both, anyOf]

/-- State at names that the predicate does not read never changes a decision. -/
theorem decide_eq_of_same_entries_read (a : Attribute) (path : String)
    (known supplied known' supplied' : Entries)
    (h : (known ++ supplied).filter (startsAmong (namesRead a path)) =
      (known' ++ supplied').filter (startsAmong (namesRead a path))) :
    ((Judge.ofState known supplied).decide a path).2 =
      ((Judge.ofState known' supplied').decide a path).2 := by
  rw [Judge.decide_ofState, Judge.decide_ofState]
  apply isVisible_congr
  intro e hread
  apply Expr.eval_congr
  intro text htext
  have hnames : text ∈ namesRead a path := by rw [namesRead, hread]; exact htext
  exact Environment.find?_build_congr_of_startsAmong hnames h

theorem decide_kitParts_eq_without_colour :
    let known : Entries := [("colour", .str "red"), ("listed", .bool true)]
    let supplied : Entries := [("items[2].type", .str "kit")]
    let known' : Entries := [("..", .null), ("listed", .bool true)]
    let supplied' : Entries := [("items[2].type", .str "kit"), ("weight", .int 3)]
    (known ++ supplied).filter (startsAmong (namesRead kitParts "items[2].parts")) =
        (known' ++ supplied').filter (startsAmong (namesRead kitParts "items[2].parts")) ∧
      ((Judge.ofState known supplied).decide kitParts "items[2].parts").2 =
        ((Judge.ofState known' supplied').decide kitParts "items[2].parts").2 := by
  intro known supplied known' supplied'
  have hnames : namesRead kitParts "items[2].parts" = ["items", "listed"] := by
    rw [namesRead, ofAttribute_kitParts]
    decide +kernel
  have hsame : (known ++ supplied).filter (startsAmong (namesRead kitParts "items[2].parts")) =
      (known' ++ supplied').filter (startsAmong (namesRead kitParts "items[2].parts")) := by
    rw [hnames]
    have hcolour : split "colour" = [.name "colour"] := by decide +kernel
    have hlisted : split "listed" = [.name "listed"] := by decide +kernel
    have htype : split "items[2].type" = [.name "items", .index 2, .name "type"] := by
      decide +kernel
    have hdots : split ".." = [] := by decide +kernel
    have hweight : split "weight" = [.name "weight"] := by decide +kernel
    simp [known, supplied, known', supplied', startsAmong, hcolour, hlisted, htype, hdots, hweight]
  exact ⟨hsame, decide_eq_of_same_entries_read _ _ _ _ _ _ hsame⟩

/-- A predicate that mentions an array only at the index name is decided for each element of the
array by itself. -/
theorem decide_eq_of_same_element (a : Attribute) (array : String) (i : Nat) (path : String)
    (known supplied known' supplied' : Entries) (hname : isWordText array = true)
    (hpath : Path.StartsAt array.toList i path.toList) (honly : MentionsOnlyIndexed a array)
    (helements : ∀ entry ∈ known ++ supplied, IsOfElement array entry)
    (helements' : ∀ entry ∈ known' ++ supplied', IsOfElement array entry)
    (h : (known ++ supplied).filter (fun entry => !isOtherElement array i entry) =
      (known' ++ supplied').filter (fun entry => !isOtherElement array i entry)) :
    ((Judge.ofState known supplied).decide a path).2 =
      ((Judge.ofState known' supplied').decide a path).2 := by
  rw [Judge.decide_ofState, Judge.decide_ofState]
  apply isVisible_congr
  intro e hread
  apply Expr.eval_forPath_congr (not_mem_of_isWordText hname) hpath _ _ e (honly e hread)
  · intro text htext
    exact Environment.find?_build_congr_of_ne htext h
  · rw [Environment.access_build_of_isOfElement helements,
      Environment.access_build_of_isOfElement helements',
      Environment.read?_build_congr_of_isOfElement helements helements' h]

theorem decide_kitParts_eq_without_other_items :
    let known : Entries := [("items[2].type", .str "kit"), ("items[0].type", .str "part")]
    let supplied : Entries := [("listed", .bool true), ("items[10]", .null)]
    let known' : Entries := [("items[2].type", .str "kit")]
    let supplied' : Entries := [("listed", .bool true)]
    isWordText "items" = true ∧
      Path.StartsAt "items".toList 2 "items[2].parts".toList ∧
      MentionsOnlyIndexed kitParts "items" ∧
      (∀ entry ∈ known ++ supplied, IsOfElement "items" entry) ∧
      (∀ entry ∈ known' ++ supplied', IsOfElement "items" entry) ∧
      (known ++ supplied).filter (fun entry => !isOtherElement "items" 2 entry) =
        (known' ++ supplied').filter (fun entry => !isOtherElement "items" 2 entry) ∧
      ((Judge.ofState known supplied).decide kitParts "items[2].parts").2 =
        ((Judge.ofState known' supplied').decide kitParts "items[2].parts").2 := by
  intro known supplied known' supplied'
  have hname : isWordText "items" = true := by decide
  have hpath : Path.StartsAt "items".toList 2 "items[2].parts".toList :=
    ⟨['2'], ".parts".toList, by decide, by decide, by simp; decide, by decide⟩
  have honly : MentionsOnlyIndexed kitParts "items" := by
    intro e he
    rw [ofAttribute_kitParts] at he
    cases he
    decide +kernel
  have htype : split "items[2].type" = [.name "items", .index 2, .name "type"] := by
    decide +kernel
  have htype' : split "items[0].type" = [.name "items", .index 0, .name "type"] := by
    decide +kernel
  have hitem : split "items[10]" = [.name "items", .index 10] := by decide +kernel
  have hlisted : split "listed" = [.name "listed"] := by decide +kernel
  have helements : ∀ entry ∈ known ++ supplied, IsOfElement "items" entry := by
    intro entry he keys hkeys
    simp only [known, supplied, List.cons_append, List.nil_append, List.mem_cons,
      List.not_mem_nil, or_false] at he
    rcases he with rfl | rfl | rfl | rfl <;> simp_all
  have helements' : ∀ entry ∈ known' ++ supplied', IsOfElement "items" entry := by
    intro entry he keys hkeys
    simp only [known', supplied', List.cons_append, List.nil_append, List.mem_cons,
      List.not_mem_nil, or_false] at he
    rcases he with rfl | rfl <;> simp_all
  have hsame : (known ++ supplied).filter (fun entry => !isOtherElement "items" 2 entry) =
      (known' ++ supplied').filter (fun entry => !isOtherElement "items" 2 entry) := by
    simp [known, supplied, known', supplied', isOtherElement, htype, htype', hitem, hlisted]
  exact ⟨hname, hpath, honly, helements, helements', hsame,
    decide_eq_of_same_element _ _ _ _ _ _ _ _ hname hpath honly helements helements' hsame⟩

end Predicate
end NextWord
