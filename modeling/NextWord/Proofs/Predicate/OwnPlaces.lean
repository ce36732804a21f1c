import Mathlib.Data.List.Infix
import NextWord.Proofs.Path.Instances
import NextWord.Proofs.Predicate.OptionalAccess
import NextWord.Proofs.Predicate.Scanned

/-!
# The index at its own place

A chain of accesses that starts at a name spells the start of a path, the index name standing for a
hole. Where a predicate is prepared for a path that starts so, the last hole of the chain takes the
index that the path has there; for an instance of a template that starts with the chain this is the
index written for the hole of the same rank. On any other path the hole takes the index of the same
rank among all that stand between brackets, and stays where there are too few. The chain is compared
with the path as it was declared, so chains within chains do not disturb each other, wherever in the
predicate they stand.
-/

namespace NextWord

open Text (isDigit readNat writeNat writeInt)

namespace Path

section Bracketed

/-- The numerals that stand between brackets in a path, from the left. -/
def bracketed (path : List Char) : List (List Char) :=
  path.tails.filterMap openingIndex?

theorem bracketed_append {text : List Char} (h : '[' ∉ text) (rest : List Char) :
    bracketed (text ++ rest) = bracketed rest := by
  induction text with
  | nil => rfl
  | cons c text ih =>
    have hc : c ≠ '[' := fun heq => h (heq ▸ List.mem_cons_self)
    rw [← ih fun hmem => h (List.mem_cons_of_mem c hmem), bracketed, List.cons_append,
      List.tails_cons, List.filterMap_cons_none (openingIndex?_of_ne hc _)]
    rfl

/-- The indices of a path are the numbers between brackets, wherever they stand. -/
theorem indices_eq_map_bracketed (path : List Char) :
    indices path = (bracketed path).map readNat := by
  induction path using fold_induction with
  | nil => rfl
  | index digits rest hne hdigits ih =>
    have hopens := openingIndex?_written hne hdigits rest
    have hplain : '[' ∉ digits ++ [']'] := by simpa using not_mem_bracket_of_digits hdigits
    have hrest : bracketed (digits ++ ']' :: rest) = bracketed rest := by
      rw [← List.singleton_append, ← List.append_assoc, bracketed_append hplain]
    rw [List.cons_append] at hopens ⊢
    rw [indices, indicesFrom, hopens, bracketed, List.tails_cons,
      List.filterMap_cons_some hopens, ← bracketed, hrest, List.map_cons, ← ih]
    simp [indicesFrom_eq_drop]
  | plain c rest hnone ih =>
    rw [indices, indicesFrom, hnone, bracketed, List.tails_cons, List.filterMap_cons_none hnone,
      ← bracketed, ← ih, indices]

end Bracketed

end Path

namespace Expr

open NextWord.Path NextWord.Path.Template

section Parts

/-- The part of an expression that a way through its children leads to. -/
def part? : Expr → List Nat → Option Expr
  | e, [] => some e
  | e, i :: way =>
    match e.children[i]? with
    | some child => part? child way
    | none => none

variable {path : List Char}

/-- Preparing a predicate prepares each of its children, but for the index name at a place. -/
theorem children_forPath {e child : Expr} {i : Nat} (h : e.children[i]? = some child)
    (hname : child.isIndexName = false) :
    (forPath path e).children[i]? = some (forPath path child) := by
  cases e with
  | literal v => cases h
  | name text => cases h
  | array items =>
    have hitem : items[i]? = some child := h
    rw [forPath, forPathAll_eq_map, children, List.getElem?_map, hitem]
    rfl
  | member target field isOptional =>
    cases i with
    | zero =>
      obtain rfl := Option.some.inj h
      rfl
    | succ i => cases h
  | index target place isOptional =>
    cases i with
    | zero =>
      obtain rfl := Option.some.inj h
      rfl
    | succ i =>
      cases i with
      | zero =>
        obtain rfl := Option.some.inj h
        rw [forPath, hname, if_neg Bool.false_ne_true]
        rfl
      | succ i => cases h
  | unary op operand =>
    cases i with
    | zero =>
      obtain rfl := Option.some.inj h
      rfl
    | succ i => cases h
  | binary op left right =>
    cases i with
    | zero =>
      obtain rfl := Option.some.inj h
      rfl
    | succ i =>
      cases i with
      | zero =>
        obtain rfl := Option.some.inj h
        rfl
      | succ i => cases h

theorem part?_forPath {e part : Expr} {way : List Nat} (h : e.part? way = some part)
    (hname : part.isIndexName = false) :
    (forPath path e).part? way = some (forPath path part) := by
  induction way generalizing e with
  | nil =>
    obtain rfl := Option.some.inj h
    rfl
  | cons i way ih =>
    rw [part?] at h
    split at h
    · next child hchild =>
      have hplain : child.isIndexName = false := by
        cases way with
        | nil =>
          obtain rfl := Option.some.inj h
          exact hname
        | cons j way =>
          -- The index name has no children, so no way leads on from it.
          cases child with
          | name text => cases h
          | _ => rfl
      rw [part?, children_forPath hchild hplain]
      exact ih h
    · cases h

end Parts

section Chains

/-- A chain of accesses that starts at a name, the path that it spells, and how many holes the path
has: one for each place that the index name stands at. Other places are written numbers. -/
inductive Spells : Expr → List Char → Nat → Prop
  | name {text : String} (isWord : Predicate.isWordText text = true) :
      Spells (.name text) text.toList 0
  | member {target : Expr} {field : String} {isOptional : Bool} {r : List Char} {j : Nat}
      (htarget : Spells target r j) (isWord : Predicate.isWordText field = true) :
      Spells (.member target field isOptional) (r ++ '.' :: field.toList) j
  | number {target : Expr} {isOptional : Bool} {r : List Char} {j : Nat}
      (htarget : Spells target r j) (i : Int) :
      Spells (.index target (.literal (.int i)) isOptional) (r ++ ('[' :: writeInt i ++ [']'])) j
  | hole {target : Expr} {isOptional : Bool} {r : List Char} {j : Nat}
      (htarget : Spells target r j) :
      Spells (.index target (.name indexName) isOptional) (r ++ Path.hole) (j + 1)

variable {e target : Expr} {r : List Char} {j : Nat}

theorem Spells.reference? (h : Spells e r j) : e.reference? = some (String.ofList r) := by
  induction h with
  | @name text _ => rw [Expr.reference?, String.ofList_toList]
  | @member target field isOptional r j _ _ ih =>
    rw [Expr.reference?, ih]
    simp [← String.toList_inj]
  | @number target isOptional r j _ i ih =>
    simp only [Expr.reference?, ih]
    simp [← String.toList_inj, intText]
  | @hole target isOptional r j _ ih =>
    simp only [Expr.reference?, ih, if_true]
    simp [Path.hole]

theorem Spells.holeCount (h : Spells e r j) : (ofText r).holeCount = j := by
  induction h with
  | name isWord => exact holeCount_of_not_mem (Predicate.not_mem_of_isWordText isWord)
  | @member target field isOptional r j _ isWord ih =>
    have hfield : '[' ∉ '.' :: field.toList := by
      simpa using Predicate.not_mem_of_isWordText isWord
    rw [holeCount_join (by simp) (by simp), ih, holeCount_of_not_mem hfield]
    rfl
  | number _ i ih =>
    rw [holeCount_join (by simp) (by simp), ih, holeCount_number]
    rfl
  | hole _ ih =>
    rw [holeCount_join (by simp [Path.hole]) (by simp [Path.hole]), ih]
    rfl

theorem placeIn?_of_spells (h : Spells target r j) (isOptional : Bool) (path : List Char) :
    placeIn? (.index target (.name indexName) isOptional) path =
      match (ofText (r ++ Path.hole)).read? path with
      | some (own, _) => own.getLast?
      | none => (indices path)[j]? := by
  have hchain : Spells (.index target (.name indexName) isOptional) (r ++ Path.hole) (j + 1) :=
    .hole h
  rw [placeIn?, hchain.reference?]
  dsimp only
  rw [String.toList_ofList]
  cases (ofText (r ++ Path.hole)).read? path with
  | some found => rfl
  | none =>
    dsimp only
    rw [hchain.holeCount, Nat.add_sub_cancel]

/-- On a path that starts like the chain its last hole takes the index that stands there. -/
theorem placeIn?_of_begins (h : Spells target r j) (isOptional : Bool)
    {numerals : List (List Char)} {digits : List Char}
    (hfits : (ofText (r ++ Path.hole)).Fits (numerals ++ [digits])) (rest : List Char) :
    placeIn? (.index target (.name indexName) isOptional)
      ((ofText (r ++ Path.hole)).write (numerals ++ [digits]) ++ rest) = some (readNat digits) := by
  have hread : (ofText (r ++ Path.hole)).read?
      ((ofText (r ++ Path.hole)).write (numerals ++ [digits]) ++ rest) =
        some ((numerals ++ [digits]).map readNat, rest) :=
    read?_eq_some_iff.mpr ⟨numerals ++ [digits], hfits, rfl, rfl⟩
  rw [placeIn?_of_spells h, hread]
  simp

/-- On another path it takes the index of its rank among all of the path. -/
theorem placeIn?_of_not_begins (h : Spells target r j) (isOptional : Bool) {path : List Char}
    (hnot : ∀ numerals rest, (ofText (r ++ Path.hole)).Fits numerals →
      path ≠ (ofText (r ++ Path.hole)).write numerals ++ rest) :
    placeIn? (.index target (.name indexName) isOptional) path =
      (bracketed path)[j]?.map readNat := by
  rw [placeIn?_of_spells h, read?_eq_none_iff.mpr hnot]
  dsimp only
  rw [indices_eq_map_bracketed, List.getElem?_map]

/-- An instance of a template that starts with the chain starts like the chain, with the indices of
its own up to the one at the last hole of the chain. -/
theorem exists_fill_begins (hcount : (ofText r).holeCount = j) {text : List Char}
    {own : List Nat} (hlength : own.length = (ofText text).holeCount)
    (hstarts : r ++ Path.hole <+: text) :
    ∃ (earlier : List Nat) (i : Nat) (rest : List Char), own[j]? = some i ∧ earlier.length = j ∧
      (ofText text).fill own =
        (ofText (r ++ Path.hole)).write (earlier.map writeNat ++ [writeNat i]) ++ rest := by
  obtain ⟨behind, rfl⟩ := hstarts
  have hhead : (Path.hole ++ behind).head? = some '[' := rfl
  rw [List.append_assoc, holeCount_join (by simp [hhead]) (by simp [hhead]), hcount,
    holeCount_hole] at hlength
  have hj : j < own.length := by omega
  refine ⟨own.take j, own[j], (ofText behind).write ((own.drop (j + 1)).map writeNat),
    List.getElem?_eq_getElem hj, by simp; omega, ?_⟩
  have hearlier : ((own.take j).map writeNat).length = (ofText r).holeCount := by
    simp [hcount]
    omega
  have hsplit : own.map writeNat = (own.take j).map writeNat ++
      writeNat own[j] :: (own.drop (j + 1)).map writeNat := by
    rw [← List.map_cons, ← List.map_append, ← List.drop_eq_getElem_cons hj, List.take_append_drop]
  have hlast := write_hole [] (writeNat own[j]) []
  rw [List.append_nil] at hlast
  calc (ofText (r ++ Path.hole ++ behind)).fill own
    _ = (ofText (r ++ (Path.hole ++ behind))).write ((own.take j).map writeNat ++
          writeNat own[j] :: (own.drop (j + 1)).map writeNat) := by
      rw [fill_eq_write, hsplit, List.append_assoc]
    _ = (ofText r).write ((own.take j).map writeNat) ++ (('[' :: writeNat own[j] ++ [']']) ++
          (ofText behind).write ((own.drop (j + 1)).map writeNat)) := by
      rw [write_join (by simp [hhead]) (by simp [hhead]) hearlier, write_hole]
      simp
    _ = (ofText (r ++ Path.hole)).write ((own.take j).map writeNat ++ [writeNat own[j]]) ++
          (ofText behind).write ((own.drop (j + 1)).map writeNat) := by
      rw [write_join (by simp [Path.hole]) (by simp [Path.hole]) hearlier, hlast]
      simp [write, ofText, writeTail]

theorem part?_forPath_hole {isOptional : Bool} {way : List Nat} {path : List Char} {i : Nat}
    (hpart : e.part? way = some (.index target (.name indexName) isOptional))
    (hfill : placeIn? (.index target (.name indexName) isOptional) path = some i) :
    (e.forPath path).part? way =
      some (.index (target.forPath path) (.literal (.int i)) true) := by
  rw [part?_forPath hpart rfl, forPath_hole hfill]

theorem part?_forPath_kept {isOptional : Bool} {way : List Nat} {path : List Char}
    (hpart : e.part? way = some (.index target (.name indexName) isOptional))
    (hkept : placeIn? (.index target (.name indexName) isOptional) path = none) :
    (e.forPath path).part? way = some (.index (target.forPath path) (.name indexName) true) := by
  have hname : (name indexName).isIndexName = true := rfl
  rw [part?_forPath hpart rfl, forPath, if_pos hname, filledPlace, hkept]

/-- Wherever in a predicate an element is accessed at the index name, behind a chain with as many
holes as come before: for an instance of a template that starts with the chain, the index name gives
way to the index written for the hole of that rank. On any path that does not start like the chain
it gives way to the number between brackets of that rank, or stays where there are too few. -/
theorem forPath_takes_own_index {isOptional : Bool} {way : List Nat}
    (hpart : e.part? way = some (.index target (.name indexName) isOptional))
    (hspells : Spells target r j) :
    (∀ (text : List Char) (own : List Nat), own.length = (ofText text).holeCount →
      r ++ Path.hole <+: text → ∃ i, own[j]? = some i ∧
        (e.forPath ((ofText text).fill own)).part? way =
          some (.index (target.forPath ((ofText text).fill own)) (.literal (.int i)) true)) ∧
    ∀ path : List Char, (∀ numerals rest, (ofText (r ++ Path.hole)).Fits numerals →
        path ≠ (ofText (r ++ Path.hole)).write numerals ++ rest) →
      (e.forPath path).part? way = some (.index (target.forPath path)
        (match (bracketed path)[j]? with
          | some digits => .literal (.int (readNat digits))
          | none => .name indexName) true) := by
  constructor
  · intro text own hlength hstarts
    obtain ⟨earlier, i, rest, hi, hearlier, hfill⟩ :=
      exists_fill_begins hspells.holeCount hlength hstarts
    have hchain : Spells (.index target (.name indexName) isOptional) (r ++ Path.hole) (j + 1) :=
      .hole hspells
    have hfits : (ofText (r ++ Path.hole)).Fits (earlier.map writeNat ++ [writeNat i]) := by
      have hcount : (earlier ++ [i]).length = (ofText (r ++ Path.hole)).holeCount := by
        rw [hchain.holeCount, List.length_append, hearlier, List.length_singleton]
      have hwritten := fits_map_writeNat hcount
      rwa [List.map_append] at hwritten
    have hplace := placeIn?_of_begins hspells isOptional hfits rest
    rw [← hfill, readNat_writeNat] at hplace
    exact ⟨i, hi, part?_forPath_hole hpart hplace⟩
  · intro path hnot
    have hplace := placeIn?_of_not_begins hspells isOptional hnot
    cases hrank : (bracketed path)[j]? with
    | some digits =>
      rw [hrank] at hplace
      exact part?_forPath_hole hpart hplace
    | none =>
      rw [hrank] at hplace
      exact part?_forPath_kept hpart hplace

/-- The second hole of `a[n].b[n]`, once on an instance of a template that starts so, and once on
paths of another array with two indices and with one. -/
theorem forPath_takes_own_index_nested :
    let target : Expr := .member (.index (.name "a") (.name "n") false) "b" false
    let access : Expr := .index target (.name "n") false
    let e : Expr := .binary .equal (.member access "c" false) (.literal (.int 1))
    let text := "a[n].b[n].d[n]".toList
    let chain := "a[n].b".toList
    e.part? [0, 0] = some access ∧ Spells target chain 1 ∧
      ([1, 4, 7] : List Nat).length = (ofText text).holeCount ∧ chain ++ Path.hole <+: text ∧
      (e.forPath ((ofText text).fill [1, 4, 7])).part? [0, 0] =
        some (.index (target.forPath ((ofText text).fill [1, 4, 7])) (.literal (.int (4 : Nat)))
          true) ∧
      (∀ numerals rest, (ofText (chain ++ Path.hole)).Fits numerals →
        "x[2].y[05]".toList ≠ (ofText (chain ++ Path.hole)).write numerals ++ rest) ∧
      (e.forPath "x[2].y[05]".toList).part? [0, 0] =
        some (.index (target.forPath "x[2].y[05]".toList) (.literal (.int (5 : Nat))) true) ∧
      (∀ numerals rest, (ofText (chain ++ Path.hole)).Fits numerals →
        "a[2].c".toList ≠ (ofText (chain ++ Path.hole)).write numerals ++ rest) ∧
      (e.forPath "a[2].c".toList).part? [0, 0] =
        some (.index (target.forPath "a[2].c".toList) (.name "n") true) := by
  intro target access e text chain
  have hpart : e.part? [0, 0] = some access := rfl
  have hspells : Spells target chain 1 :=
    .member (.hole (.name (by decide))) (by decide)
  have hlength : ([1, 4, 7] : List Nat).length = (ofText text).holeCount := by decide +kernel
  have hstarts : chain ++ Path.hole <+: text := ⟨".d[n]".toList, by decide +kernel⟩
  have hother : ∀ numerals rest, (ofText (chain ++ Path.hole)).Fits numerals →
      "x[2].y[05]".toList ≠ (ofText (chain ++ Path.hole)).write numerals ++ rest :=
    read?_eq_none_iff.mp (by decide +kernel)
  have hfew : ∀ numerals rest, (ofText (chain ++ Path.hole)).Fits numerals →
      "a[2].c".toList ≠ (ofText (chain ++ Path.hole)).write numerals ++ rest :=
    read?_eq_none_iff.mp (by decide +kernel)
  have hranked : (bracketed "x[2].y[05]".toList)[1]? = some ['0', '5'] := by decide +kernel
  have hnone : (bracketed "a[2].c".toList)[1]? = none := by decide +kernel
  obtain ⟨hinstance, hrank⟩ := forPath_takes_own_index hpart hspells
  obtain ⟨i, hi, hfilled⟩ := hinstance text [1, 4, 7] hlength hstarts
  obtain rfl := Option.some.inj hi
  have htaken := hrank _ hother
  have hkept := hrank _ hfew
  rw [hranked] at htaken
  rw [hnone] at hkept
  exact ⟨hpart, hspells, hlength, hstarts, hfilled, hother, htaken, hfew, hkept⟩

end Chains

end Expr
end NextWord
