import NextWord.Proofs.Predicate.Induction

/-!
# What optional access changes

A predicate is prepared for a path in two ways: the index name gives way to an index of the path,
and every access becomes optional. Neither changes a value that the predicate already has where the
index name stands for that index. On the other hand optional access to a name, a text or an index
always reads something, if only nothing. So a predicate that looks values up and compares them for
equality never fails, whatever the state holds at any step of a path.

Which index of a path it is that fills a place is not settled here.
-/

namespace NextWord

namespace Eval

/-- Access that reads a value reads the same value when it is made optional. -/
theorem access_optional {target key v : Value} {isOptional : Bool}
    (h : access target key isOptional = .ok v) : access target key true = .ok v := by
  cases isOptional with
  | true => exact h
  | false =>
    cases target with
    | absent => cases h
    | null => cases h
    | dict entries => exact h
    | list items =>
      cases key with
      | int i => exact h
      | _ => cases h
    | _ => cases h

/-- Optional access reads something from any value, unless the key is a list or an object. -/
theorem exists_access {key : Value} (hkey : key.isHashable = true) (target : Value) :
    ∃ v, access target key true = .ok v := by
  cases target with
  | dict entries =>
    rw [access, if_pos hkey]
    exact ⟨_, rfl⟩
  | list items =>
    cases key with
    | int i => exact ⟨element items i, rfl⟩
    | _ => exact ⟨.absent, rfl⟩
  | _ => exact ⟨.absent, rfl⟩

end Eval

namespace Expr

variable {path : List Char} {env : Environment} {i : Nat}

theorem forPath_hole {target : Expr} {isOptional : Bool}
    (hfill : placeIn? (.index target (.name indexName) isOptional) path = some i) :
    forPath path (.index target (.name indexName) isOptional) =
      .index (forPath path target) (.literal (.int i)) true := by
  have hname : (name indexName).isIndexName = true := rfl
  rw [forPath, if_pos hname, filledPlace, hfill]

section Filled

/-- Whether the index name occurs only directly as an index, and the path fills in the same index
wherever it does. -/
inductive FilledBy (path : List Char) (i : Nat) : Expr → Prop
  | literal (v : Value) : FilledBy path i (.literal v)
  | array {items : List Expr} (h : ∀ e ∈ items, FilledBy path i e) : FilledBy path i (.array items)
  | name {text : String} (hne : text ≠ indexName) : FilledBy path i (.name text)
  | member {target : Expr} {field : String} {isOptional : Bool} (htarget : FilledBy path i target) :
      FilledBy path i (.member target field isOptional)
  | hole {target : Expr} {isOptional : Bool} (htarget : FilledBy path i target)
      (hfill : placeIn? (.index target (.name indexName) isOptional) path = some i) :
      FilledBy path i (.index target (.name indexName) isOptional)
  | index {target place : Expr} {isOptional : Bool} (htarget : FilledBy path i target)
      (hplace : FilledBy path i place) : FilledBy path i (.index target place isOptional)
  | unary {op : UnaryOp} {operand : Expr} (h : FilledBy path i operand) :
      FilledBy path i (.unary op operand)
  | binary {op : BinaryOp} {left right : Expr} (hleft : FilledBy path i left)
      (hright : FilledBy path i right) : FilledBy path i (.binary op left right)

theorem FilledBy.isIndexName_eq_false {e : Expr} (h : FilledBy path i e) :
    e.isIndexName = false := by
  cases h with
  | name hne => exact beq_eq_false_iff_ne.mpr hne
  | _ => rfl

theorem evalAll_map_of_evalAll {env' : Environment} {f : Expr → Expr} {items : List Expr}
    (h : ∀ e ∈ items, ∀ v, eval env' e = .ok v → eval env (f e) = .ok v) {vs : List Value}
    (hitems : evalAll env' items = .ok vs) : evalAll env (items.map f) = .ok vs := by
  induction items generalizing vs with
  | nil => exact hitems
  | cons first items ih =>
    rw [evalAll] at hitems
    split at hitems
    · cases hitems
    · next v hfirst =>
      split at hitems
      · cases hitems
      · next others hothers =>
        have hrest := ih (fun e he => h e (List.mem_cons_of_mem first he)) hothers
        rw [List.map_cons, evalAll, h first List.mem_cons_self v hfirst, hrest]
        exact hitems

/-- A value of a predicate, the index name standing for an index, is kept when that index is filled
in and all accesses are made optional. -/
theorem eval_forPath_of_eval_put {path : String} {e : Expr} (hfilled : FilledBy path.toList i e)
    {v : Value} (h : e.eval (env.put (.name indexName) (.int i)) = .ok v) :
    (e.forPath path.toList).eval env = .ok v := by
  induction hfilled generalizing v with
  | literal w => exact h
  | @array items _ ih =>
    rw [eval] at h
    cases hitems : evalAll (env.put (.name indexName) (.int i)) items with
    | error fault =>
      rw [hitems] at h
      cases h
    | ok vs =>
      rw [hitems] at h
      rw [forPath, forPathAll_eq_map, eval,
        evalAll_map_of_evalAll (fun e he w hw => ih e he hw) hitems]
      exact h
  | name hne =>
    rw [eval, Table.find?_put_of_ne (by simpa using hne)] at h
    exact h
  | member _ ih =>
    rw [eval] at h
    split at h
    · cases h
    · next target htarget =>
      rw [forPath, eval, ih htarget]
      exact Eval.access_optional h
  | @hole target isOptional _ hfill ih =>
    -- The index name reads the index that the rewritten predicate holds in its place.
    have hkey : eval (env.put (.name indexName) (.int i)) (.name indexName) = .ok (.int i) := by
      rw [eval, Table.find?_put_self]
      rfl
    rw [eval, hkey] at h
    split at h
    · cases h
    · next target htarget =>
      rw [forPath_hole hfill, eval, ih htarget]
      exact Eval.access_optional h
  | index _ hplace iht ihp =>
    rw [eval] at h
    split at h
    · cases h
    · next target htarget =>
      split at h
      · cases h
      · next key hkey =>
        rw [forPath, hplace.isIndexName_eq_false, if_neg Bool.false_ne_true, eval, iht htarget,
          ihp hkey]
        exact Eval.access_optional h
  | unary _ ih =>
    rw [eval] at h
    split at h
    · cases h
    · next operand hoperand =>
      rw [forPath, eval, ih hoperand]
      exact h
  | binary _ _ ihl ihr =>
    rw [eval] at h
    split at h
    · cases h
    · next left hleft =>
      rw [forPath, eval, ihl hleft]
      -- A right side that does not decide is evaluated on neither side.
      dsimp only
      split at h
      · next hand => rw [if_pos hand, h]
      · next hand =>
        rw [if_neg hand]
        split at h
        · next hor => rw [if_pos hor, h]
        · next hor =>
          rw [if_neg hor]
          split at h
          · cases h
          · next right hright =>
            rw [ihr hright]
            exact h

theorem eval_forPath_of_eval_put_bolt :
    let place : Expr := .index (.name "sizes") (.name "n") false
    let part : Expr := .index (.member (.index (.name "lines") (.name "n") false) "parts" false)
      place false
    let e : Expr := .binary .or (.binary .equal part (.literal (.str "bolt")))
      (.member (.name "gone") "kind" false)
    let line : Value := .dict [(.name "parts", .list [.str "nut", .str "bolt"])]
    let env : Environment :=
      [(.name "lines", .dict [(.index 2, line)]), (.name "sizes", .dict [(.index 2, .int 1)])]
    FilledBy "lines[2].weight".toList 2 e ∧
      e.eval (env.put (.name indexName) (.int (2 : Nat))) = .ok (.bool true) ∧
      (e.forPath "lines[2].weight".toList).eval env = .ok (.bool true) := by
  intro place part e line env
  have hlines : placeIn? (.index (.name "lines") (.name indexName) false)
      "lines[2].weight".toList = some 2 := by decide +kernel
  have hsizes : placeIn? (.index (.name "sizes") (.name indexName) false)
      "lines[2].weight".toList = some 2 := by decide +kernel
  have hfilled : FilledBy "lines[2].weight".toList 2 e :=
    .binary
      (.binary (.index (.member (.hole (.name (by decide)) hlines)) (.hole (.name (by decide)) hsizes))
        (.literal _))
      (.member (.name (by decide)))
  have hvalue : e.eval (env.put (.name indexName) (.int (2 : Nat))) = .ok (.bool true) := rfl
  exact ⟨hfilled, hvalue, eval_forPath_of_eval_put hfilled hvalue⟩

end Filled

section LooksUp

/-- Whether a predicate only looks values up and compares them for equality. An index is a written
number or text, or the index name where the path fills it in. -/
inductive LooksUp (path : List Char) : Expr → Prop
  | literal (v : Value) : LooksUp path (.literal v)
  | array {items : List Expr} (h : ∀ e ∈ items, LooksUp path e) : LooksUp path (.array items)
  | name (text : String) : LooksUp path (.name text)
  | member {target : Expr} {field : String} {isOptional : Bool} (htarget : LooksUp path target) :
      LooksUp path (.member target field isOptional)
  | number {target : Expr} {isOptional : Bool} (htarget : LooksUp path target) (n : Nat) :
      LooksUp path (.index target (.literal (.int n)) isOptional)
  | text {target : Expr} {isOptional : Bool} (htarget : LooksUp path target) (text : String) :
      LooksUp path (.index target (.literal (.str text)) isOptional)
  | hole {target : Expr} {isOptional : Bool} {i : Nat} (htarget : LooksUp path target)
      (hfill : placeIn? (.index target (.name indexName) isOptional) path = some i) :
      LooksUp path (.index target (.name indexName) isOptional)
  | not {operand : Expr} (h : LooksUp path operand) : LooksUp path (.unary .not operand)
  | joined {op : BinaryOp} {left right : Expr}
      (hop : op = .and ∨ op = .or ∨ op = .equal ∨ op = .notEqual) (hleft : LooksUp path left)
      (hright : LooksUp path right) : LooksUp path (.binary op left right)
  | membership {op : BinaryOp} {item : Expr} {items : List Expr}
      (hop : op = .member ∨ op = .notMember) (hitem : LooksUp path item)
      (hitems : ∀ e ∈ items, LooksUp path e) : LooksUp path (.binary op item (.array items))

theorem exists_evalAll {items : List Expr} (h : ∀ e ∈ items, ∃ v, eval env e = .ok v) :
    ∃ vs, evalAll env items = .ok vs := by
  induction items with
  | nil => exact ⟨[], rfl⟩
  | cons first items ih =>
    obtain ⟨v, hfirst⟩ := h first List.mem_cons_self
    obtain ⟨vs, hitems⟩ := ih fun e he => h e (List.mem_cons_of_mem first he)
    exact ⟨v :: vs, by rw [evalAll, hfirst, hitems]⟩

theorem exists_eval_array {items : List Expr}
    (h : ∀ e ∈ items, ∃ v, eval env (forPath path e) = .ok v) :
    ∃ vs, eval env (forPath path (.array items)) = .ok (.list vs) := by
  have hmap : ∀ e ∈ items.map (forPath path), ∃ v, eval env e = .ok v := by
    intro e he
    obtain ⟨item, hitem, rfl⟩ := List.mem_map.mp he
    exact h item hitem
  obtain ⟨vs, hvs⟩ := exists_evalAll hmap
  exact ⟨vs, by rw [forPath, forPathAll_eq_map, eval, hvs]; rfl⟩

theorem exists_eval_index {target : Expr} {key : Value} (hkey : key.isHashable = true)
    (htarget : ∃ v, eval env target = .ok v) :
    ∃ v, eval env (.index target (.literal key) true) = .ok v := by
  obtain ⟨v, hv⟩ := htarget
  rw [eval, hv]
  exact Eval.exists_access hkey v

/-- An infix operation has a value if both sides have one to which it can be applied. -/
theorem exists_eval_binary {op : BinaryOp} {left right : Expr} {v w : Value}
    (hleft : eval env left = .ok v) (hright : eval env right = .ok w)
    (happly : op = .and ∨ op = .or ∨ ∃ u, Eval.apply op v w = .ok u) :
    ∃ u, eval env (.binary op left right) = .ok u := by
  rw [eval, hleft]
  dsimp only
  split
  · exact ⟨_, rfl⟩
  · split
    · exact ⟨_, rfl⟩
    · rw [hright]
      dsimp only
      split
      · exact ⟨_, rfl⟩
      · next hop =>
        rcases happly with hand | hor | hvalue
        · exact absurd (.inl hand) hop
        · exact absurd (.inr hor) hop
        · exact hvalue

/-- A predicate that only looks values up and compares them for equality has a value for every path
and state. -/
theorem exists_eval_forPath {path : String} {e : Expr} (h : LooksUp path.toList e)
    (known supplied : Entries) :
    ∃ v, (e.forPath path.toList).eval (.build known supplied) = .ok v := by
  induction h with
  | literal v => exact ⟨v, rfl⟩
  | array _ ih =>
    obtain ⟨vs, hvs⟩ := exists_eval_array ih
    exact ⟨.list vs, hvs⟩
  | name text => exact ⟨_, rfl⟩
  | member _ ih =>
    obtain ⟨v, hv⟩ := ih
    rw [forPath, eval, hv]
    exact Eval.exists_access rfl v
  | number _ n ih => exact exists_eval_index rfl ih
  | text _ text ih => exact exists_eval_index rfl ih
  | hole _ hfill ih =>
    rw [forPath_hole hfill]
    exact exists_eval_index rfl ih
  | not _ ih =>
    obtain ⟨v, hv⟩ := ih
    rw [forPath, eval, hv]
    exact ⟨_, rfl⟩
  | joined hop _ _ ihl ihr =>
    obtain ⟨v, hv⟩ := ihl
    obtain ⟨w, hw⟩ := ihr
    apply exists_eval_binary hv hw
    rcases hop with hop | hop | rfl | rfl
    · exact .inl hop
    · exact .inr (.inl hop)
    · exact .inr (.inr ⟨_, rfl⟩)
    · exact .inr (.inr ⟨_, rfl⟩)
  | membership hop _ _ ihitem ihitems =>
    obtain ⟨v, hv⟩ := ihitem
    obtain ⟨vs, hvs⟩ := exists_eval_array ihitems
    apply exists_eval_binary hv hvs
    rcases hop with rfl | rfl
    · exact .inr (.inr ⟨_, rfl⟩)
    · exact .inr (.inr ⟨_, rfl⟩)

theorem exists_eval_forPath_scalars :
    let kind : Expr := .member (.index (.name "items") (.name "n") false) "type" false
    let tag : Expr := .index (.index (.name "tags") (.literal (.str "main")) false)
      (.literal (.int (3 : Nat))) false
    let e : Expr := .binary .and
      (.unary .not (.binary .member kind (.array [.literal (.str "kit"), .name "size"])))
      (.binary .notEqual tag (.literal .null))
    let known : Entries := [("items[0]", .str "7"), ("tags", .str "[true, null]")]
    let supplied : Entries := [("size.width", .str "12")]
    LooksUp "items[0].sku".toList e ∧
      ∃ v, (e.forPath "items[0].sku".toList).eval (.build known supplied) = .ok v := by
  intro kind tag e known supplied
  have hkind : placeIn? (.index (.name "items") (.name indexName) false) "items[0].sku".toList =
      some 0 := by decide +kernel
  have hitems : ∀ e ∈ [Expr.literal (.str "kit"), .name "size"],
      LooksUp "items[0].sku".toList e := by
    simp only [List.mem_cons, List.not_mem_nil, or_false, forall_eq_or_imp, forall_eq]
    exact ⟨.literal _, .name _⟩
  have hlooks : LooksUp "items[0].sku".toList e :=
    .joined (.inl rfl)
      (.not (.membership (.inl rfl) (.member (.hole (.name _) hkind)) hitems))
      (.joined (.inr (.inr (.inr rfl))) (.number (.text (.name _) _) 3) (.literal _))
  exact ⟨hlooks, exists_eval_forPath hlooks known supplied⟩

end LooksUp

end Expr
end NextWord
