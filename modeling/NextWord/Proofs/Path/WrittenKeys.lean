import NextWord.Path.Split
import NextWord.Proofs.Path.WrittenIndex

/-!
# Keys as they are written

A path is written as a name followed by steps: a dot with a name behind it, or a numeral between
brackets. A name has no dots and brackets in it; a numeral may be made of the digits of any script,
and have noughts in front. The scanner finds every key that was written, once and in order. So
splitting gives back the keys that were joined to a path, an index as an index and a name of digits
as a name, and no other keys share that path.
-/

namespace NextWord.Path

open Text (isDigit readNat)

def IsName (text : List Char) : Prop :=
  text ≠ [] ∧ ∀ c ∈ text, c ≠ '.' ∧ c ≠ '[' ∧ c ≠ ']'

inductive WritesStep : Key → List Char → Prop
  | name {text : String} (h : IsName text.toList) : WritesStep (.name text) ('.' :: text.toList)
  | index {digits : List Char} (hne : digits ≠ []) (hdigits : ∀ c ∈ digits, isDigit c = true) :
      WritesStep (.index (readNat digits)) ('[' :: (digits ++ [']']))

inductive WritesSteps : List Key → List Char → Prop
  | nil : WritesSteps [] []
  | cons {key : Key} {keys : List Key} {text rest : List Char} (hkey : WritesStep key text)
      (hkeys : WritesSteps keys rest) : WritesSteps (key :: keys) (text ++ rest)

/-- The ways to write a path: a name, and the other keys behind it. -/
inductive WritesPath : List Key → List Char → Prop
  | start {name : String} {rest : List Char} {keys : List Key} (hname : IsName name.toList)
      (hkeys : WritesSteps keys rest) : WritesPath (.name name :: keys) (name.toList ++ rest)

theorem WritesSteps.append {keys more : List Key} {text rest : List Char}
    (h : WritesSteps keys text) (hmore : WritesSteps more rest) :
    WritesSteps (keys ++ more) (text ++ rest) := by
  induction h with
  | nil => exact hmore
  | cons hkey _ ih =>
    rw [List.cons_append, List.append_assoc]
    exact .cons hkey ih

theorem WritesPath.append {keys more : List Key} {text rest : List Char}
    (h : WritesPath keys text) (hmore : WritesSteps more rest) :
    WritesPath (keys ++ more) (text ++ rest) := by
  cases h with
  | start hname hkeys =>
    rw [List.cons_append, List.append_assoc]
    exact .start hname (hkeys.append hmore)

section Scanning

/-- A name is held whole until its end. -/
theorem keysFrom_name {text : List Char} (h : ∀ c ∈ text, c ≠ '.' ∧ c ≠ '[' ∧ c ≠ ']')
    (held rest : List Char) :
    keysFrom .name held (text ++ rest) = keysFrom .name (held ++ text) rest := by
  induction text generalizing held with
  | nil => rw [List.nil_append, List.append_nil]
  | cons c text ih =>
    obtain ⟨⟨hdot, hopen, hclose⟩, htext⟩ := List.forall_mem_cons.mp h
    rw [List.cons_append, keysFrom, if_neg (by simp [hopen]), if_neg (by simp [hdot, hopen, hclose]),
      ih htext, List.append_assoc, List.singleton_append]

/-- What stands between brackets is held whole until the closing one. -/
theorem keysFrom_bracket {text : List Char} (h : ']' ∉ text) (held rest : List Char) :
    keysFrom .bracket held (text ++ ']' :: rest) =
      bracketKey (held ++ text) :: keysFrom .name [] rest := by
  induction text generalizing held with
  | nil => rw [List.nil_append, List.append_nil, keysFrom, if_pos rfl]
  | cons c text ih =>
    obtain ⟨hc, htext⟩ := List.ne_and_not_mem_of_not_mem_cons h
    rw [List.cons_append, keysFrom, if_neg (Ne.symm hc), ih htext, List.append_assoc,
      List.singleton_append]

theorem bracketKey_of_digits {digits : List Char} (hne : digits ≠ [])
    (hdigits : ∀ c ∈ digits, isDigit c = true) : bracketKey digits = .index (readNat digits) :=
  if_pos ⟨hne, List.all_eq_true.mpr hdigits⟩

theorem nameKey_of_isName {text : String} (h : IsName text.toList) :
    nameKey text.toList = [.name text] := by
  rw [nameKey, if_neg (by simpa using h.1), String.ofList_toList]

/-- Behind a name that is being read come the keys that are written. -/
theorem keysFrom_of_writesSteps {keys : List Key} {text : List Char} (h : WritesSteps keys text)
    (held : List Char) : keysFrom .name held text = nameKey held ++ keys := by
  induction h generalizing held with
  | nil => rw [keysFrom, List.append_nil]
  | @cons key keys text rest hkey _ ih =>
    cases hkey with
    | @name name hname =>
      have hnot : ¬ ('.' = '[' ∧ ']' ∈ name.toList ++ rest) := by
        rintro ⟨hdot, -⟩
        exact absurd hdot (by decide)
      rw [List.cons_append, keysFrom, if_neg hnot, if_pos (.inr (.inr rfl)), keysFrom_name hname.2,
        List.nil_append, ih, nameKey_of_isName hname, List.singleton_append]
    | @index digits hne hdigits =>
      have hclose : ']' ∉ digits := by
        intro hmem
        exact absurd (hdigits ']' hmem) (by decide)
      have hopens : '[' = '[' ∧ ']' ∈ digits ++ ']' :: rest := ⟨rfl, by simp⟩
      rw [List.cons_append, List.append_assoc, List.singleton_append, keysFrom, if_pos hopens,
        keysFrom_bracket hclose, List.nil_append, bracketKey_of_digits hne hdigits, ih]
      rfl

/-- The keys of a path are those that it was written from. -/
theorem keys_of_writesPath {keys : List Key} {text : List Char} (h : WritesPath keys text) :
    Path.keys text = keys := by
  cases h with
  | start hname hkeys =>
    rw [Path.keys, keysFrom_name hname.2, List.nil_append, keysFrom_of_writesSteps hkeys,
      nameKey_of_isName hname, List.singleton_append]

theorem split_of_writesPath {keys : List Key} {path : String} (h : WritesPath keys path.toList) :
    split path = keys :=
  keys_of_writesPath h

end Scanning

section Joining

/-- Keys that can be joined to a path, the names among them being names. -/
def Joinable (keys : List Key) : Prop :=
  ∀ text, Key.name text ∈ keys → IsName text.toList

theorem Joinable.tail {key : Key} {keys : List Key} (h : Joinable (key :: keys)) : Joinable keys :=
  fun text hmem => h text (List.mem_cons_of_mem key hmem)

theorem writesStep_index (n : Nat) : WritesStep (.index n) (stepText (.index n)) := by
  have hstep := WritesStep.index (writeNat_ne_nil n) isDigit_of_mem_writeNat
  rwa [readNat_writeNat] at hstep

/-- What joining writes behind other keys are those keys. -/
theorem writesSteps_flatMap {keys : List Key} (h : Joinable keys) :
    WritesSteps keys (keys.flatMap stepText) := by
  induction keys with
  | nil => exact .nil
  | cons key keys ih =>
    rw [List.flatMap_cons]
    refine .cons ?_ (ih h.tail)
    cases key with
    | index n => exact writesStep_index n
    | name text => exact .name (h text List.mem_cons_self)

theorem keys_join {keys : List Key} (h : Joinable keys) : Path.keys (join keys) = keys := by
  cases keys with
  | nil => rfl
  | cons key more =>
    cases key with
    | index n =>
      -- An index stands at the start as it does behind other keys.
      rw [Path.keys, join, ← List.flatMap_cons, keysFrom_of_writesSteps (writesSteps_flatMap h)]
      rfl
    | name text =>
      exact keys_of_writesPath (.start (h text List.mem_cons_self) (writesSteps_flatMap h.tail))

/-- Splitting a path gives back the keys that were joined to it, and no other keys are joined to the
same path. -/
theorem split_join {keys : List Key} (h : Joinable keys) :
    split (String.ofList (join keys)) = keys ∧
      ∀ others, Joinable others → join others = join keys → others = keys := by
  refine ⟨?_, fun others hothers hsame => ?_⟩
  · rw [split, String.toList_ofList, keys_join h]
  · calc
      others = Path.keys (join others) := (keys_join hothers).symm
      _ = Path.keys (join keys) := by rw [hsame]
      _ = keys := keys_join h

/-- Keys of an array of arrays under a name of digits, with digits of two scripts. -/
def shelfKeys : List Key :=
  [.name "12", .index 12, .index 0, .name "٣", .name "label"]

theorem joinable_shelfKeys : Joinable shelfKeys := by
  intro text hmem
  have hnames : text = "12" ∨ text = "٣" ∨ text = "label" := by simpa [shelfKeys] using hmem
  rcases hnames with rfl | rfl | rfl <;> exact ⟨by decide, by simp⟩

theorem split_join_shelfKeys :
    Joinable shelfKeys ∧ split "12[12][0].٣.label" = shelfKeys ∧
      ∀ others, Joinable others → join others = "12[12][0].٣.label".toList →
        others = shelfKeys := by
  obtain ⟨hsplit, hunique⟩ := split_join joinable_shelfKeys
  have htext : join shelfKeys = "12[12][0].٣.label".toList := by decide
  rw [htext, String.ofList_toList] at hsplit
  rw [htext] at hunique
  exact ⟨joinable_shelfKeys, hsplit, hunique⟩

end Joining

end NextWord.Path
