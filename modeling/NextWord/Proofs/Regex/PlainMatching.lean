import NextWord.Proofs.Regex.PlainReading
import NextWord.Regex.Match

/-!
# Matching plain expressions

The matcher tries the ways in which a class can be repeated from the longest on. Where no run can
take what comes behind it, the longest way is the only one that can lead on, so a match reads the
parts of an expression off the text from left to right, as a scan does, or fails where the scan
does.
-/

namespace NextWord.Regex

open Pattern (Span Part belongs scan)

/-- A match was found, and its trace is of a certain kind. -/
def Outcome.Finds (P : Trace → Prop) (o : Outcome) : Prop :=
  ∃ t, o = .found t ∧ P t

def Outcome.Fails (o : Outcome) : Prop :=
  ∃ t, o = .failed t

/-- The cursor behind a run of characters of a class, as long as it can be. -/
def behindRun (members : List Span) (s : Cursor) : Cursor :=
  ⟨(s.rest.takeWhile (belongs members)).reverse ++ s.before, s.rest.dropWhile (belongs members)⟩

section Runs

variable {test : CharTest} {members : List Span} {frame : Frame} {next : Next}
  {P : Trace → Prop}

/-- The stops of a run: one behind each of its characters, which all but the last have in front of
them. -/
theorem exists_stops (accepts : ∀ c, test.accepts c = belongs members c)
    (before rest : List Char) : ∃ shorter,
      stops test none before rest = shorter ++ [behindRun members ⟨before, rest⟩] ∧
      shorter.length = (rest.takeWhile (belongs members)).length ∧
      ∀ s ∈ shorter, ∃ c more, s.rest = c :: more ∧ belongs members c = true := by
  induction rest generalizing before with
  | nil => exact ⟨[], rfl, rfl, by simp⟩
  | cons c rest ih =>
    rw [stops, accepts]
    · by_cases hc : belongs members c = true
      · obtain ⟨shorter, hstops, hlength, hshorter⟩ := ih (c :: before)
        refine ⟨⟨before, c :: rest⟩ :: shorter, ?_, ?_, ?_⟩
        · simp [hc, hstops, behindRun]
        · simp [hc, hlength]
        · exact List.forall_mem_cons.mpr ⟨⟨c, rest, rfl, hc⟩, hshorter⟩
      · exact ⟨[], by simp [hc, behindRun], by simp [hc], by simp⟩
    · simp

theorem fails_tryEach {ends : List Cursor} (h : ∀ s ∈ ends, ∀ t, (next s t).Fails) (t : Trace) :
    (tryEach frame next ends t).Fails := by
  induction ends generalizing t with
  | nil => exact ⟨t, rfl⟩
  | cons s others ih =>
    obtain ⟨hs, hothers⟩ := List.forall_mem_cons.mp h
    rw [tryEach]
    split
    · obtain ⟨u, hu⟩ := hs (t.at_ s)
      rw [hu]
      exact ih hothers _
    · exact ih hothers t

theorem finds_tryEach {s : Cursor} (allowed : frame.after.allowsCode s = true)
    (h : ∀ t, (next s t).Finds P) (others : List Cursor) (t : Trace) :
    (tryEach frame next (s :: others) t).Finds P := by
  obtain ⟨u, hu, hP⟩ := h (t.at_ s)
  rw [tryEach, if_pos allowed, hu]
  exact ⟨u, rfl, hP⟩

variable {s : Cursor}

/-- A run that is not empty leads on where what follows goes on behind it. -/
theorem finds_runOne (accepts : ∀ c, test.accepts c = belongs members c)
    (nonempty : s.rest.takeWhile (belongs members) ≠ [])
    (allowed : frame.after.allowsCode (behindRun members s) = true)
    (h : ∀ t, (next (behindRun members s) t).Finds P) (t : Trace) :
    (runOne test frame 1 none s t next .greedy).Finds P := by
  obtain ⟨shorter, hstops, hlength, -⟩ := exists_stops accepts s.before s.rest
  have hrest : ¬ s.rest.length < 1 := by
    intro hlt
    have hnil : s.rest = [] := List.length_eq_zero_iff.mp (by omega)
    exact nonempty (by rw [hnil, List.takeWhile_nil])
  obtain ⟨first, shorter, rfl⟩ := List.exists_cons_of_length_pos
    (hlength ▸ List.length_pos_iff.mpr nonempty)
  rw [runOne, if_neg hrest, hstops]
  dsimp only
  rw [List.cons_append, List.drop_one, List.tail_cons, List.reverse_append]
  exact finds_tryEach allowed h _ _

/-- A run fails if it is empty, or what follows goes on neither behind it nor behind a shorter
one. -/
theorem fails_runOne (accepts : ∀ c, test.accepts c = belongs members c)
    (h : s.rest.takeWhile (belongs members) ≠ [] →
      (∀ t, (next (behindRun members s) t).Fails) ∧
        ∀ u c more, u.rest = c :: more → belongs members c = true → ∀ t, (next u t).Fails)
    (t : Trace) : (runOne test frame 1 none s t next .greedy).Fails := by
  obtain ⟨shorter, hstops, hlength, hshorter⟩ := exists_stops accepts s.before s.rest
  rw [runOne]
  split
  · exact ⟨_, rfl⟩
  · rw [hstops]
    refine fails_tryEach (fun u hu => ?_) _
    cases shorter with
    | nil => simp at hu
    | cons first shorter =>
      have hnonempty : s.rest.takeWhile (belongs members) ≠ [] :=
        List.length_pos_iff.mp (hlength ▸ Nat.succ_pos _)
      obtain ⟨hlongest, hothers⟩ := h hnonempty
      rw [List.cons_append, List.drop_one, List.tail_cons, List.mem_reverse, List.mem_append,
        List.mem_singleton] at hu
      rcases hu with hu | rfl
      · obtain ⟨c, more, hrest, hc⟩ := hshorter u (List.mem_cons_of_mem first hu)
        exact hothers u c more hrest hc
      · exact hlongest

end Runs

section Sequences

variable {parts : List Part} {items tail : List Item} {frame : Frame} {next : Next}
  {P : Trace → Prop}

theorem orElse_nothing (l : Lead) : l.orElse .nothing = l := by
  cases l <;> rfl

theorem lead_sequence_cons (item : Item) (items : List Item) :
    lead (sequence (item :: items)) = (lead item.node).orElse (lead (sequence items)) := by
  cases items with
  | nil => exact (orElse_nothing _).symm
  | cons other items => rfl

/-- The first item of a sequence, followed by the others. -/
theorem run_sequence_cons (item : Item) (items : List Item) (frame : Frame) (s : Cursor)
    (t : Trace) (next : Next) :
    run (sequence (item :: items)) frame s t next =
      run item.node (frame.before (sequence items)) s t fun u v =>
        run (sequence items) frame u v next := by
  cases items with
  | nil => rfl
  | cons other items => rfl

/-- A run, in a group or not, leads on where what follows goes on behind it. -/
theorem finds_run_item {members : List Span} {item : Item} (realized : Realizes (.run members) item)
    {s : Cursor} (nonempty : s.rest.takeWhile (belongs members) ≠ [])
    (allowed : frame.after.allowsCode (behindRun members s) = true)
    (h : ∀ t, (next (behindRun members s) t).Finds P) (t : Trace) :
    (run item.node frame s t next).Finds P := by
  cases realized with
  | run accepts => exact finds_runOne accepts nonempty allowed h t
  | group accepts =>
    have hclosed : frame.closed.after.allowsCode (behindRun members s) = true := rfl
    refine finds_runOne accepts nonempty hclosed (fun t => ?_) _
    exact h _

theorem fails_run_item {members : List Span} {item : Item} (realized : Realizes (.run members) item)
    {s : Cursor} (h : s.rest.takeWhile (belongs members) ≠ [] →
      (∀ t, (next (behindRun members s) t).Fails) ∧
        ∀ u c more, u.rest = c :: more → belongs members c = true → ∀ t, (next u t).Fails)
    (t : Trace) : (run item.node frame s t next).Fails := by
  cases realized with
  | run accepts => exact fails_runOne accepts h t
  | group accepts =>
    refine fails_runOne accepts (fun hnonempty => ?_) _
    obtain ⟨hlongest, hothers⟩ := h hnonempty
    exact ⟨fun t => hlongest _, fun u c more hrest hc t => hothers u c more hrest hc _⟩

theorem accepts_char (c d : Char) :
    (CharTest.code c.toNat false .exact).accepts d = true ↔ d = c := by
  rw [accepts_code, beq_iff_eq, Char.toNat_inj]

/-- What a scan goes on to read may start where the scan has come to. -/
theorem allowsCode_of_scan (realized : List.Forall₂ Realizes parts items)
    (after : frame.after = .other) (tail_lead : (lead (sequence tail)).orElse .other = .other)
    {s : Cursor} {taken left : List Char} (h : scan parts s.rest = some (taken, left)) :
    (frame.before (sequence (items ++ tail))).after.allowsCode s = true := by
  cases realized with
  | nil =>
    rw [List.nil_append, Frame.before, after, tail_lead]
    rfl
  | cons hitem realized =>
    rw [List.cons_append, Frame.before, lead_sequence_cons]
    cases hitem with
    | @char c =>
      obtain ⟨rest, others, hrest, -, -⟩ := Pattern.exists_of_scan_char h
      change s.rest.head?.any (fun d => d.toNat == c.toNat) = true
      simp [hrest]
    | run accepts => rfl
    | group accepts => rfl

/-- A match of items goes on from where a scan of their parts comes to. -/
theorem finds_run_of_scan (realized : List.Forall₂ Realizes parts items)
    (after : frame.after = .other) (tail_lead : (lead (sequence tail)).orElse .other = .other)
    {before text taken left : List Char} (hscan : scan parts text = some (taken, left))
    (h : ∀ t, (run (sequence tail) frame ⟨taken.reverse ++ before, left⟩ t next).Finds P)
    (t : Trace) : (run (sequence (items ++ tail)) frame ⟨before, text⟩ t next).Finds P := by
  induction realized generalizing before text taken t with
  | nil =>
    obtain ⟨rfl, rfl⟩ := Prod.mk.inj (Option.some.inj hscan)
    exact h t
  | @cons part item parts items hitem realized ih =>
    rw [List.cons_append, run_sequence_cons]
    cases part with
    | char c =>
      obtain ⟨rest, others, rfl, hothers, rfl⟩ := Pattern.exists_of_scan_char hscan
      cases hitem
      rw [run]
      dsimp only
      rw [if_pos ((accepts_char c c).mpr rfl)]
      exact ih hothers (by simpa using h) t
    | run members =>
      obtain ⟨hvalue, others, hothers, rfl⟩ := Pattern.exists_of_scan_run hscan
      have hbehind : scan parts (behindRun members ⟨before, text⟩).rest = some (others, left) :=
        hothers
      refine finds_run_item hitem hvalue (allowsCode_of_scan realized after tail_lead hbehind)
        (fun u => ?_) t
      exact ih hothers (by simpa using h) u

/-- Items fail where a scan of their parts does. -/
theorem fails_run_of_scan (realized : List.Forall₂ Realizes parts items)
    (apart : parts.IsChain Part.Precedes) {before text : List Char}
    (hscan : scan parts text = none) (t : Trace) :
    (run (sequence items) frame ⟨before, text⟩ t next).Fails := by
  induction realized generalizing before text t with
  | nil => cases hscan
  | @cons part item parts items hitem realized ih =>
    rw [run_sequence_cons]
    cases part with
    | char c =>
      cases hitem
      rw [run]
      cases text with
      | nil => exact ⟨t, rfl⟩
      | cons d rest =>
        dsimp only
        split
        · next hd =>
          obtain rfl := (accepts_char c d).mp hd
          rw [Pattern.scan_char_cons, Option.map_eq_none_iff] at hscan
          exact ih apart.tail hscan t
        · exact ⟨t, rfl⟩
    | run members =>
      refine fails_run_item hitem (fun hvalue => ?_) t
      rw [Pattern.scan_run_of_ne_nil hvalue, Option.map_eq_none_iff] at hscan
      refine ⟨fun u => ih apart.tail hscan u, fun s c more hrest hc u => ?_⟩
      -- Behind a shorter run the next part meets a character that it is kept apart from.
      cases parts with
      | nil => cases hscan
      | cons part parts =>
        obtain ⟨hprecedes, -⟩ := List.isChain_cons_cons.mp apart
        have hnone : scan (part :: parts) s.rest = none := ?_
        · exact ih apart.tail hnone u
        cases part with
        | run others => exact hprecedes.elim
        | char d =>
          have hne : d ≠ c := by
            rintro rfl
            exact Bool.noConfusion (hc.symm.trans hprecedes)
          rw [hrest, scan, if_neg hne]

end Sequences

section Anchored

variable {parts : List Part} {items : List Item} {least : Nat} {text : List Char}

/-- The caret holds where the text starts. -/
theorem run_caret (items : List Item) (frame : Frame) (text : List Char) (t : Trace) (next : Next) :
    run (sequence (anchorItem (.start false) :: items)) frame ⟨[], text⟩ t next =
      run (sequence items) frame ⟨[], text⟩ t next := by
  rw [run_sequence_cons]
  rfl

/-- Where the text is too short for an expression, no scan of its parts comes to an end. -/
theorem not_length_lt_of_scan (least_le : least ≤ parts.length) {taken left : List Char}
    (hscan : scan parts text = some (taken, left)) : ¬ text.length < least := by
  obtain ⟨htext, hlength⟩ := Pattern.append_of_scan hscan
  rw [htext, List.length_append]
  omega

/-- An expression behind a caret takes what a scan of its parts takes. -/
theorem takes?_of_realizes (realized : List.Forall₂ Realizes parts items)
    (apart : parts.IsChain Part.Precedes) (least_le : least ≤ parts.length) (text : List Char) :
    Expression.takes? ⟨sequence (anchorItem (.start false) :: items), least⟩ text =
      (scan parts text).map Prod.fst := by
  rw [Expression.takes?, Expression.matchFrom?, run_caret]
  cases hscan : scan parts text with
  | none =>
    have hfails : (run (sequence items) {} ⟨[], text⟩ ⟨[], ⟨[], text⟩⟩ done).Fails :=
      fails_run_of_scan realized apart hscan _
    obtain ⟨u, hu⟩ := hfails
    rw [hu]
    split <;> rfl
  | some found =>
    obtain ⟨taken, left⟩ := found
    have hfinds : (run (sequence (items ++ [])) {} ⟨[], text⟩ ⟨[], ⟨[], text⟩⟩ done).Finds
        fun u => u.resume = ⟨taken.reverse, left⟩ :=
      finds_run_of_scan realized rfl rfl hscan
        (fun t => ⟨_, rfl, by rw [Trace.at_, List.append_nil]⟩) _
    obtain ⟨u, hu, hresume⟩ := hfinds
    rw [List.append_nil] at hu
    rw [if_neg (not_length_lt_of_scan least_le hscan), hu]
    simp [hresume]

/-- An expression between anchors matches a text in full that a scan of its parts takes in full. -/
theorem finds_of_scan_all (realized : List.Forall₂ Realizes parts items) {next : Next}
    (hscan : scan parts text = some (text, [])) {P : Trace → Prop}
    (h : ∀ t, (next ⟨text.reverse, []⟩ t).Finds P) (t : Trace) :
    (run (sequence (anchorItem (.start false) :: (items ++ [anchorItem (.finish false)]))) {}
      ⟨[], text⟩ t next).Finds P := by
  rw [run_caret]
  refine finds_run_of_scan realized rfl rfl hscan (fun t => ?_) t
  rw [List.append_nil]
  exact h t

end Anchored
end NextWord.Regex
