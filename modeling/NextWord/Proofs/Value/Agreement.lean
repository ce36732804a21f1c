import Mathlib.Data.List.Perm.Subperm
import NextWord.Predicate.Eval
import NextWord.Proofs.Resource.WellKeyed
import NextWord.Proofs.Value.Places
import NextWord.Proofs.Value.Sameness

/-!
# Values that agree

Two values agree if they are made alike: lists of the same length, objects with the same keys,
scalars of the same kind and content. What counts as a number is left open. If booleans count as
numbers, agreement is what the members of containers are compared by. If they do not, it is the same
thing with booleans at the same places on both sides.
-/

namespace NextWord.Value

/-- Whether a value is what a data file can hold, NaN left out: an object has each key once. Keys may
also be indices, as those of an array put together from its elements are. -/
inductive IsJson : Value → Prop
  | null : IsJson .null
  | bool (b : Bool) : IsJson (.bool b)
  | int (i : Int) : IsJson (.int i)
  | float {x : Binary64} (h : ∀ written, x ≠ .nan written) : IsJson (.float x)
  | str (text : String) : IsJson (.str text)
  | list {items : List Value} (h : ∀ v ∈ items, IsJson v) : IsJson (.list items)
  | dict {entries : List (Key × Value)} (once : (Table.keys entries).Nodup)
      (h : ∀ entry ∈ entries, IsJson entry.2) : IsJson (.dict entries)

/-- Agreement of values, given which of them are numbers. Numbers agree if they have the same size,
lists element by element, objects key by key in any order. -/
inductive Agrees (number : Value → Option Number) : Value → Value → Prop
  | null : Agrees number .null .null
  | bool (b : Bool) : Agrees number (.bool b) (.bool b)
  | number {v w : Value} {m n : Number} {size : Number.Size} (hv : number v = some m)
      (hw : number w = some n) (hm : m.size? = some size) (hn : n.size? = some size) :
      Agrees number v w
  | str (text : String) : Agrees number (.str text) (.str text)
  | list {vs ws : List Value} (hlength : vs.length = ws.length)
      (h : ∀ (n : Nat) v w, vs[n]? = some v → ws[n]? = some w → Agrees number v w) :
      Agrees number (.list vs) (.list ws)
  | dict {es fs : List (Key × Value)} (hkeys : ∀ key, key ∈ Table.keys es ↔ key ∈ Table.keys fs)
      (h : ∀ key v w, Table.find? key es = some v → Table.find? key fs = some w →
        Agrees number v w) :
      Agrees number (.dict es) (.dict fs)

section Content

theorem content?_eq_null {v : Value} : v.content? = some .null ↔ v = .null := by
  cases v <;> simp [content?, toNumber?]

theorem content?_eq_text {v : Value} {text : String} :
    v.content? = some (.text text) ↔ v = .str text := by
  cases v <;> simp [content?, toNumber?]

theorem content?_eq_number {v : Value} {size : Number.Size} :
    v.content? = some (.number size) ↔ ∃ m, v.toNumber? = some m ∧ m.size? = some size := by
  cases v <;> simp [content?, toNumber?]

/-- Among the values of data files, scalars of the same content agree. -/
theorem agrees_of_content? {v w : Value} {content : Content} (hv : v.IsJson)
    (hvc : v.content? = some content) (hwc : w.content? = some content) :
    Agrees toNumber? v w := by
  cases content with
  | absent =>
    cases hv <;> simp [content?, toNumber?] at hvc
  | null =>
    rw [content?_eq_null.mp hvc, content?_eq_null.mp hwc]
    exact .null
  | number size =>
    obtain ⟨m, hvm, hm⟩ := content?_eq_number.mp hvc
    obtain ⟨n, hwn, hn⟩ := content?_eq_number.mp hwc
    exact .number hvm hwn hm hn
  | text text =>
    rw [content?_eq_text.mp hvc, content?_eq_text.mp hwc]
    exact .str text
  | moment kind text =>
    cases hv <;> simp [content?, toNumber?] at hvc

theorem exists_content?_of_agrees {v w : Value} (hscalar : v.isHashable = true)
    (h : Agrees toNumber? v w) :
    ∃ content, v.content? = some content ∧ w.content? = some content := by
  cases h with
  | null => exact ⟨.null, rfl, rfl⟩
  | bool b => cases b <;> exact ⟨.number (.finite _), rfl, rfl⟩
  | number hv hw hm hn =>
    exact ⟨.number _, content?_eq_number.mpr ⟨_, hv, hm⟩, content?_eq_number.mpr ⟨_, hw, hn⟩⟩
  | str text => exact ⟨.text text, rfl, rfl⟩
  | list => cases hscalar
  | dict => cases hscalar

theorem same_iff_agrees_of_scalar {v w : Value} (hv : v.IsJson) (hscalar : v.isHashable = true) :
    v.same w = true ↔ Agrees toNumber? v w := by
  rw [same_eq_sameScalar hscalar, sameScalar_iff]
  constructor
  · rintro ⟨hne, heq⟩
    obtain ⟨content, hcontent⟩ := Option.ne_none_iff_exists'.mp hne
    exact agrees_of_content? hv hcontent (heq ▸ hcontent)
  · intro h
    obtain ⟨content, hvc, hwc⟩ := exists_content?_of_agrees hscalar h
    exact ⟨by rw [hvc]; exact Option.some_ne_none content, hvc.trans hwc.symm⟩

end Content

section Containers

theorem sameItems_iff {vs ws : List Value} :
    sameItems vs ws = true ↔ vs.length = ws.length ∧
      ∀ (n : Nat) v w, vs[n]? = some v → ws[n]? = some w → v.same w = true := by
  induction vs generalizing ws with
  | nil => cases ws <;> simp [sameItems]
  | cons v vs ih =>
    cases ws with
    | nil => simp [sameItems]
    | cons w ws =>
      rw [sameItems, Bool.and_eq_true, ih]
      constructor
      · rintro ⟨hfirst, hlength, hrest⟩
        refine ⟨congrArg Nat.succ hlength, fun n v' w' hv hw => ?_⟩
        cases n with
        | zero =>
          cases hv
          cases hw
          exact hfirst
        | succ n => exact hrest n v' w' hv hw
      · rintro ⟨hlength, h⟩
        exact ⟨h 0 v w rfl rfl, Nat.succ.inj hlength, fun n => h (n + 1)⟩

theorem agreesWith_iff {es fs : List (Key × Value)} :
    agreesWith es fs = true ↔
      ∀ entry ∈ es, ∃ w, Table.find? entry.1 fs = some w ∧ entry.2.same w = true := by
  induction es with
  | nil => simp [agreesWith]
  | cons entry es ih =>
    rw [agreesWith, Bool.and_eq_true, ih, List.forall_mem_cons]
    cases Table.find? entry.1 fs <;> simp

/-- Objects are the same if they have the same keys, and under each of them the same values. -/
theorem same_dict_iff {es fs : List (Key × Value)} (hes : (Table.keys es).Nodup)
    (hfs : (Table.keys fs).Nodup) :
    (Value.dict es).same (.dict fs) = true ↔
      (∀ key, key ∈ Table.keys es ↔ key ∈ Table.keys fs) ∧
        ∀ key v w, Table.find? key es = some v → Table.find? key fs = some w →
          v.same w = true := by
  rw [same, Bool.and_eq_true, beq_iff_eq, agreesWith_iff]
  constructor
  · rintro ⟨hlength, h⟩
    have hfound {key : Key} {v : Value} (hv : Table.find? key es = some v) :
        ∃ w, Table.find? key fs = some w ∧ v.same w = true :=
      h (key, v) (Table.mem_of_find?_eq_some hv)
    have hsubset : Table.keys es ⊆ Table.keys fs := by
      intro key hkey
      obtain ⟨v, hv⟩ := Option.isSome_iff_exists.mp (Table.find?_isSome_iff.mpr hkey)
      obtain ⟨w, hw, -⟩ := hfound hv
      exact Table.find?_isSome_iff.mp (Option.isSome_iff_exists.mpr ⟨w, hw⟩)
    -- Keys that occur once, as many as those among which they are found, are all of them.
    have hperm : (Table.keys es).Perm (Table.keys fs) :=
      (List.subperm_of_subset hes hsubset).perm_of_length_le (by simp [Table.keys, hlength])
    refine ⟨fun key => hperm.mem_iff, fun key v w hv hw => ?_⟩
    obtain ⟨other, hother, hsame⟩ := hfound hv
    rwa [Option.some.inj (hother.symm.trans hw)] at hsame
  · rintro ⟨hkeys, h⟩
    have hperm : (Table.keys es).Perm (Table.keys fs) :=
      (List.perm_ext_iff_of_nodup hes hfs).mpr hkeys
    refine ⟨by simpa [Table.keys] using hperm.length_eq, ?_⟩
    rintro ⟨key, v⟩ hmem
    have hkey : key ∈ Table.keys fs := (hkeys key).mp (List.mem_map_of_mem hmem)
    obtain ⟨w, hw⟩ := Option.isSome_iff_exists.mp (Table.find?_isSome_iff.mpr hkey)
    exact ⟨w, hw, h key v w (Table.find?_of_mem hes hmem) hw⟩

/-- Members of containers are the same if they agree, booleans being numbers. -/
theorem same_iff_agrees {v w : Value} (hv : v.IsJson) (hw : w.IsJson) :
    v.same w = true ↔ Agrees toNumber? v w := by
  induction hv generalizing w with
  | @list vs _ ih =>
    cases hw with
    | @list ws hws =>
      rw [same, sameItems_iff]
      constructor
      · rintro ⟨hlength, h⟩
        refine .list hlength fun n v w hv hw => ?_
        exact (ih v (List.mem_of_getElem? hv) (hws w (List.mem_of_getElem? hw))).mp (h n v w hv hw)
      · intro h
        cases h with
        | number hv => cases hv
        | list hlength h =>
          refine ⟨hlength, fun n v w hv hw => ?_⟩
          exact (ih v (List.mem_of_getElem? hv) (hws w (List.mem_of_getElem? hw))).mpr
            (h n v w hv hw)
    | _ =>
      constructor
      · intro h
        simp [same] at h
      · intro h
        cases h with
        | number hv => cases hv
  | @dict es hes _ ih =>
    cases hw with
    | @dict fs hfs hws =>
      have hmem {entries : List (Key × Value)} {key : Key} {v : Value}
          (h : Table.find? key entries = some v) := Table.mem_of_find?_eq_some h
      rw [same_dict_iff hes hfs]
      constructor
      · rintro ⟨hkeys, h⟩
        refine .dict hkeys fun key v w hv hw => ?_
        exact (ih _ (hmem hv) (hws _ (hmem hw))).mp (h key v w hv hw)
      · intro h
        cases h with
        | number hv => cases hv
        | dict hkeys h =>
          refine ⟨hkeys, fun key v w hv hw => ?_⟩
          exact (ih _ (hmem hv) (hws _ (hmem hw))).mpr (h key v w hv hw)
    | _ =>
      constructor
      · intro h
        simp [same] at h
      · intro h
        cases h with
        | number hv => cases hv
  | null => exact same_iff_agrees_of_scalar .null rfl
  | bool b => exact same_iff_agrees_of_scalar (.bool b) rfl
  | int i => exact same_iff_agrees_of_scalar (.int i) rfl
  | float h => exact same_iff_agrees_of_scalar (.float h) rfl
  | str text => exact same_iff_agrees_of_scalar (.str text) rfl

end Containers

section BooleansApart

open Eval (isBool)

theorem toNumber?_of_number? {v : Value} {m : Number} (h : v.number? = some m) :
    v.toNumber? = some m := by
  cases v <;> first | exact h | cases h

theorem number?_of_toNumber? {v : Value} {m : Number} (hnot : isBool v = false)
    (h : v.toNumber? = some m) : v.number? = some m := by
  cases v <;> first | exact h | cases hnot

theorem exists_of_isBool {v : Value} (h : isBool v = true) : ∃ b, v = .bool b := by
  cases v with
  | bool b => exact ⟨b, rfl⟩
  | _ => cases h

/-- The two booleans count as different numbers. -/
theorem bool_eq_of_size? {b c : Bool}
    (h : (Number.int (if b then 1 else 0)).size? = (Number.int (if c then 1 else 0)).size?) :
    b = c := by
  have hunits := Number.Size.finite.inj (Option.some.inj h)
  have hnumbers := Number.mul_unitsPerOne_inj.mp hunits
  cases b <;> cases c <;> first | rfl | cases hnumbers

/-- Values that agree with booleans apart from numbers agree. -/
theorem Agrees.toNumber {v w : Value} (h : Agrees number? v w) : Agrees toNumber? v w := by
  induction h with
  | null => exact .null
  | bool b => exact .bool b
  | number hv hw hm hn =>
    exact .number (toNumber?_of_number? hv) (toNumber?_of_number? hw) hm hn
  | str text => exact .str text
  | list hlength _ ih => exact .list hlength ih
  | dict hkeys _ ih => exact .dict hkeys ih

theorem Agrees.isBool_eq {v w : Value} (h : Agrees number? v w) : isBool v = isBool w := by
  have hnumber {v : Value} {m : Number} (h : v.number? = some m) : isBool v = false := by
    cases v <;> first | rfl | cases h
  cases h with
  | number hv hw => rw [hnumber hv, hnumber hw]
  | _ => rfl

/-- What stands under the same key of values that agree does agree. -/
theorem Agrees.step {x y v w : Value} (h : Agrees number? x y) (key : Key)
    (hv : x.step? key = some v) (hw : y.step? key = some w) : Agrees number? v w := by
  cases h with
  | number hx =>
    cases x with
    | list items => cases hx
    | dict entries => cases hx
    | _ => cases hv
  | list _ h =>
    cases key with
    | index n => exact h n v w hv hw
    | name text => cases hv
  | dict _ h => exact h key v w hv hw
  | _ => cases hv

theorem Agrees.at_place {x y v w : Value} {place : List Key} (h : Agrees number? x y)
    (hv : x.at? place = some v) (hw : y.at? place = some w) : Agrees number? v w := by
  induction place generalizing x y with
  | nil =>
    cases hv
    cases hw
    exact h
  | cons key place ih =>
    obtain ⟨x', hx, hv⟩ := Option.bind_eq_some_iff.mp hv
    obtain ⟨y', hy, hw⟩ := Option.bind_eq_some_iff.mp hw
    exact ih (h.step key hx hy) hv hw

/-- Whether two values have booleans at the same places, of those that both have. -/
def BooleansApart (x y : Value) : Prop :=
  ∀ place v w, x.at? place = some v → y.at? place = some w → isBool v = isBool w

theorem BooleansApart.step {x y v w : Value} (h : BooleansApart x y) (key : Key)
    (hv : x.step? key = some v) (hw : y.step? key = some w) : BooleansApart v w := by
  intro place v' w' hv' hw'
  apply h (key :: place)
  · rw [at?, hv]
    exact hv'
  · rw [at?, hw]
    exact hw'

/-- Agreement that keeps booleans apart from numbers is agreement with booleans at the same
places. -/
theorem agrees_number?_iff {x y : Value} :
    Agrees number? x y ↔ Agrees toNumber? x y ∧ BooleansApart x y := by
  constructor
  · intro h
    exact ⟨h.toNumber, fun place v w hv hw => (h.at_place hv hw).isBool_eq⟩
  · rintro ⟨h, hapart⟩
    induction h with
    | null => exact .null
    | bool b => exact .bool b
    | @number v w m n size hv hw hm hn =>
      have hbool : isBool v = isBool w := hapart [] v w rfl rfl
      cases hkind : isBool v with
      | false =>
        exact .number (number?_of_toNumber? hkind hv) (number?_of_toNumber? (hbool ▸ hkind) hw) hm hn
      | true =>
        obtain ⟨b, rfl⟩ := exists_of_isBool hkind
        obtain ⟨c, rfl⟩ := exists_of_isBool (hbool ▸ hkind)
        cases hv
        cases hw
        obtain rfl : b = c := bool_eq_of_size? (hm.trans hn.symm)
        exact .bool b
    | str text => exact .str text
    | list hlength _ ih =>
      exact .list hlength fun n v w hv hw => ih n v w hv hw (hapart.step (.index n) hv hw)
    | dict hkeys _ ih =>
      exact .dict hkeys fun key v w hv hw => ih key v w hv hw (hapart.step key hv hw)

end BooleansApart

end NextWord.Value
