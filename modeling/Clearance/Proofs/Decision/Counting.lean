/-
  Counting related rows.

  A related node decides its predicate on one row after the other and stops when there are enough
  rows that satisfy it.

  * `countRows_append`: rows on which the predicate does not fail are counted off, and counting
    goes on behind them with what is left to count;
  * `countRows_eq_true_append`: enough rows stay enough when there are more;
  * `CountsRows` says that a test of the resources counts the rows of a table that another test
    accepts, with the error of the first row on which that test fails before there are enough;
  * `Rule.related_counts_rows`: a related node is such a test, wherever it stands in a rule.
-/
import Clearance.Proofs.Limits.Unlimited

namespace Clearance

variable {F : Type} {config : Config}

/-! ## Counting -/

/-- Whether a decision is positive. -/
def Result.holds (r : Result Bool) : Bool :=
  match r with
  | .ok b => b
  | .error _ => false

/-- A decision that does not fail. -/
def Result.Decided (r : Result Bool) : Prop := ∃ b, r = .ok b

theorem Result.Decided.eq_ok {r : Result Bool} (h : r.Decided) : r = .ok r.holds := by
  obtain ⟨b, rfl⟩ := h
  rfl

/-- The number of rows that a test accepts. -/
def acceptedRows (test : Value → Result Bool) (rows : List Value) : Nat :=
  rows.countP fun row => (test row).holds

section

variable {test : Value → Result Bool}

theorem acceptedRows_cons (row : Value) (rows : List Value) :
    acceptedRows test (row :: rows) =
      if (test row).holds then acceptedRows test rows + 1 else acceptedRows test rows := by
  rw [acceptedRows, List.countP_cons]
  split <;> rfl

theorem countRows_zero (test : Value → Result Bool) (rows : List Value) :
    countRows 0 test rows = .ok true := by
  cases rows <;> rfl

theorem countRows_cons (needed : Nat) (row : Value) (rows : List Value) :
    countRows (needed + 1) test (row :: rows) = (do
      if ← test row then countRows needed test rows else countRows (needed + 1) test rows) := by
  rw [countRows]
  rfl

/-- Rows on which the test does not fail are counted off. -/
theorem countRows_append {before : List Value} (h : ∀ row ∈ before, (test row).Decided)
    (rest : List Value) : ∀ needed, countRows needed test (before ++ rest) =
      if needed ≤ acceptedRows test before then .ok true
      else countRows (needed - acceptedRows test before) test rest := by
  induction before with
  | nil =>
    intro needed
    cases needed with
    | zero => rw [countRows_zero]; rfl
    | succ n => rfl
  | cons row before ih =>
    have ih := ih fun r hr => h r (List.mem_cons_of_mem _ hr)
    intro needed
    cases needed with
    | zero => rw [countRows_zero, if_pos (Nat.zero_le _)]
    | succ n =>
      obtain ⟨b, hb⟩ := h row List.mem_cons_self
      rw [List.cons_append, countRows_cons, acceptedRows_cons, hb]
      cases b
      · exact ih (n + 1)
      · show countRows n test (before ++ rest) =
          if n + 1 ≤ acceptedRows test before + 1 then .ok true
          else countRows (n + 1 - (acceptedRows test before + 1)) test rest
        rw [ih, Nat.add_sub_add_right]
        simp only [Nat.add_le_add_iff_right]

/-- Where the test fails on no row, the rows are counted. -/
theorem countRows_of_decided {rows : List Value} (h : ∀ row ∈ rows, (test row).Decided)
    (needed : Nat) :
    countRows needed test rows = .ok (decide (needed ≤ acceptedRows test rows)) :=
  countRows_eq_ok (fun row hrow => (h row hrow).eq_ok) needed

/-- The first row on which the test fails ends the count, unless there were enough before it. -/
theorem countRows_of_failed {before after : List Value} {row : Value} {err : Error}
    (h : ∀ r ∈ before, (test r).Decided) (hrow : test row = .error err) (needed : Nat) :
    countRows needed test (before ++ row :: after) =
      if needed ≤ acceptedRows test before then .ok true else .error err := by
  rw [countRows_append h]
  split
  · rfl
  · rename_i hn
    obtain ⟨left, hleft⟩ := Nat.exists_eq_add_of_lt (Nat.not_le.1 hn)
    have hrest : needed - acceptedRows test before = left + 1 := by omega
    rw [hrest, countRows_cons, hrow]
    rfl

/-- Enough rows are enough, however many follow and whatever the test makes of those. -/
theorem countRows_eq_true_append {rows : List Value} (more : List Value) : ∀ {needed},
    countRows needed test rows = .ok true → countRows needed test (rows ++ more) = .ok true := by
  induction rows with
  | nil =>
    intro needed h
    cases needed with
    | zero => exact countRows_zero test _
    | succ n => cases h
  | cons row rows ih =>
    intro needed h
    cases needed with
    | zero => exact countRows_zero test _
    | succ n =>
      rw [countRows_cons] at h
      rw [List.cons_append, countRows_cons]
      obtain ⟨b, hb, h⟩ := Result.bind_eq_ok.1 h
      refine Result.bind_eq_ok.2 ⟨b, hb, ?_⟩
      cases b
      · exact ih h
      · exact ih h

end

/-! ## Rows of a table -/

/-- The resources with a table bound to a value. -/
def boundTo (fields : List (String × Value)) (table : String) (v : Value) : Value :=
  .dict (Keyed.setKey table v fields)

theorem field_boundTo (fields : List (String × Value)) (table : String) (v : Value) :
    (boundTo fields table v).field table = v := by
  rw [boundTo, Value.field, Value.field?, Keyed.lookup_setKey_self]
  rfl

/-- A test of the resources asks for a number of rows of a table that are accepted when the table
    is bound to them one at a time. -/
structure CountsRows (table : String) (needed : Nat) (accept test : Value → Result Bool) :
    Prop where
  /-- Where no row is asked for, nothing is looked at. -/
  unasked : needed = 0 → ∀ resources, test resources = .ok true
  /-- What is no sequence has no rows. -/
  noRows : needed ≠ 0 → ∀ resources, (resources.field table).rows? = none →
    test resources = .ok false
  counted : ∀ fields rows, ((Value.dict fields).field table).rows? = some rows →
    (∀ row ∈ rows, (accept (boundTo fields table row)).Decided) →
    test (.dict fields) =
      .ok (decide (needed ≤ acceptedRows (fun row => accept (boundTo fields table row)) rows))
  /-- The order of the rows does not count. -/
  permuted : ∀ fields rows, ((Value.dict fields).field table).rows? = some rows →
    (∀ row ∈ rows, (accept (boundTo fields table row)).Decided) →
    ∀ v rows', v.rows? = some rows' → rows'.Perm rows →
      test (boundTo fields table v) = test (.dict fields)
  /-- More rows do no harm, whatever is made of those. -/
  appended : ∀ fields rows, ((Value.dict fields).field table).rows? = some rows →
    test (.dict fields) = .ok true →
    ∀ v more, v.rows? = some (rows ++ more) → test (boundTo fields table v) = .ok true
  /-- The first error is the outcome, unless there were enough rows before it. -/
  failed : ∀ fields before row after err,
    ((Value.dict fields).field table).rows? = some (before ++ row :: after) →
    (∀ r ∈ before, (accept (boundTo fields table r)).Decided) →
    accept (boundTo fields table row) = .error err →
    test (.dict fields) =
      if needed ≤ acceptedRows (fun r => accept (boundTo fields table r)) before then .ok true
      else .error err

/-- A test that binds the table to each row in turn and counts asks for a number of rows. -/
theorem CountsRows.of_countRows {table : String} {needed : Nat} {accept test : Value → Result Bool}
    (h : ∀ resources, test resources =
      if needed == 0 then .ok true
      else match (resources.field table).rows? with
        | none => .ok false
        | some rows => countRows needed (fun row => do
            let bound ← bindTable resources table row
            accept bound) rows) :
    CountsRows table needed accept test := by
  have hrows : ∀ fields rows, ((Value.dict fields).field table).rows? = some rows →
      test (.dict fields) =
        countRows needed (fun row => accept (boundTo fields table row)) rows := by
    intro fields rows hr
    rw [h, hr]
    split
    · rename_i hn
      rw [beq_iff_eq.1 hn, countRows_zero]
    · rfl
  have hbound : ∀ fields v rows, v.rows? = some rows →
      test (boundTo fields table v) =
        countRows needed (fun row => accept (boundTo fields table row)) rows := by
    intro fields v rows hv
    have hr := hrows (Keyed.setKey table v fields) rows (by rwa [← boundTo, field_boundTo])
    simpa only [boundTo, Keyed.setKey_setKey] using hr
  exact {
    unasked := fun hn resources => by rw [h, hn]; rfl
    noRows := fun hn resources hr => by rw [h, hr, if_neg (by simpa using hn)]
    counted := fun fields rows hr hd => by rw [hrows fields rows hr, countRows_of_decided hd]
    permuted := fun fields rows hr hd v rows' hv hp => by
      rw [hrows fields rows hr, hbound fields v rows' hv, countRows_of_decided hd,
        countRows_of_decided fun row hrow => hd row (hp.mem_iff.1 hrow), acceptedRows,
        acceptedRows, hp.countP_eq]
    appended := fun fields rows hr ht v more hv => by
      rw [hrows fields rows hr] at ht
      rw [hbound fields v (rows ++ more) hv]
      exact countRows_eq_true_append more ht
    failed := fun fields before row after err hr hd herr => by
      rw [hrows fields _ hr, countRows_of_failed hd herr] }

/-! ## Related nodes -/

theorem evaluateWithin_related [CharacterNames] (config : Config) (call : Meaning F) (actor : Value)
    (remaining : Nat) (resources : Value) (opened : List String) (kind : RelatedKind)
    (table : String) (predicate : Expr F) (needed : Nat) :
    evaluateWithin config call actor remaining resources opened
        (.related kind table predicate needed) = (do
      Run.charge config
      if needed == 0 then return true
      match (resources.field table).rows? with
      | none => return false
      | some rows => countRows needed (fun row => do
        let bound ← Run.ofResult (bindTable resources table row)
        evaluateWithin config call actor remaining bound (opened ++ [table]) predicate) rows) := by
  cases remaining <;> rfl

/-- Without a limit on the nodes, a related node counts rows, wherever it stands. -/
theorem evaluateWithin_countsRows [CharacterNames] (hl : config.maxExpressionNodes = none)
    (call : Meaning F) (actor : Value) (remaining : Nat) (opened : List String) (kind : RelatedKind)
    (table : String) (predicate : Expr F) (needed : Nat) :
    CountsRows table needed
      (fun resources => (evaluateWithin config call actor remaining resources (opened ++ [table])
        predicate).result)
      fun resources => (evaluateWithin config call actor remaining resources opened
        (.related kind table predicate needed)).result := by
  refine .of_countRows fun resources => Run.Follows.result_eq ?_ hl
  rw [evaluateWithin_related]
  refine .charged ?_
  split
  · exact .pure true
  · rcases (resources.field table).rows? with _ | rows
    · exact .pure false
    · refine Run.Follows.reckoning.countRows (n := 0) (fun _ _ _ _ _ h => h)
        (fun row => Run.Follows.bind (.ofResult _) fun bound _ => ?_) _ _
      exact (evaluateWithin_same hl call actor remaining predicate bound _).follows

/-- **A related node counts the rows that satisfy its predicate**, with no limit on the nodes: as a
    rule of its own, and inside a rule with any tables open around it, where what was visited
    before makes no difference to it. -/
theorem Rule.related_counts_rows [CharacterNames] (hl : config.maxExpressionNodes = none)
    (call : Meaning F) (actor : Value) (kind : RelatedKind) (table : String) (predicate : Expr F)
    (needed : Nat) :
    CountsRows table needed
      (fun resources => (evaluateWithin config call actor config.maxFunctionDepth resources [table]
        predicate).result)
      (fun resources => ((Rule.expr (.related kind table predicate needed)).evaluate config call
        actor resources).result) ∧
    ∀ remaining opened,
      CountsRows table needed
        (fun resources => (evaluateWithin config call actor remaining resources (opened ++ [table])
          predicate).result)
        (fun resources => (evaluateWithin config call actor remaining resources opened
          (.related kind table predicate needed)).result) ∧
      ∀ resources t, ((evaluateWithin config call actor remaining resources opened
          (.related kind table predicate needed)).outcomeFrom t).1 =
        (evaluateWithin config call actor remaining resources opened
          (.related kind table predicate needed)).result :=
  ⟨evaluateWithin_countsRows hl call actor _ [] kind table predicate needed,
    fun remaining opened =>
      ⟨evaluateWithin_countsRows hl call actor remaining opened kind table predicate needed,
        fun resources t =>
          (evaluateWithin_same hl call actor remaining _ resources opened).outcomeFrom_eq t⟩⟩

section

attribute [local instance] CharacterNames.empty

/-- Notes with scores of which the last one can be compared with nothing: two high scores are found
    before it, three are not, and of notes that can all be compared the order does not count. -/
theorem Rule.related_counts_rows_of_scores :
    let high (needed : Nat) : Rule Empty := .expr (.related .count "notes"
      (.comparison .gt ⟨true, "notes", "score"⟩ (.scalar (.int 1))) needed)
    let notes (scores : List Scalar) : Value :=
      .dict [("notes", .list (scores.map fun s => .dict [("score", .scalar s)]))]
    let nan : Scalar := .decimal (.nan false false 0 0)
    ((high 2).evaluate {} noFunctions .null (notes [.int 2, .int 3, nan])).result = .ok true ∧
    ((high 3).evaluate {} noFunctions .null (notes [.int 2, .int 3, nan])).result =
      .error .invalidOperation ∧
    ((high 2).evaluate {} noFunctions .null (notes [.int 0, .int 2, .int 3])).result =
      ((high 2).evaluate {} noFunctions .null (notes [.int 3, .int 0, .int 2])).result := by
  intro high notes nan
  let row (s : Scalar) : Value := .dict [("score", .scalar s)]
  have hcounts := fun needed => (@Rule.related_counts_rows Empty {} _ rfl noFunctions .null .count
    "notes" (.comparison .gt ⟨true, "notes", "score"⟩ (.scalar (.int 1))) needed).1
  have hfailed := fun needed => (hcounts needed).failed
    [("notes", .list [row (.int 2), row (.int 3), row nan])] [row (.int 2), row (.int 3)]
    (row nan) [] .invalidOperation rfl
    (by
      intro r hr
      simp only [List.mem_cons, List.not_mem_nil, or_false] at hr
      rcases hr with rfl | rfl <;> exact ⟨true, rfl⟩)
    rfl
  refine ⟨hfailed 2, hfailed 3, ?_⟩
  refine (hcounts 2).permuted [("notes", .list [row (.int 3), row (.int 0), row (.int 2)])] _ rfl ?_
    (.list [row (.int 0), row (.int 2), row (.int 3)]) _ rfl
    (.symm (.trans (.swap ..) (.cons _ ?_)))
  · intro r hr
    simp only [List.mem_cons, List.not_mem_nil, or_false] at hr
    rcases hr with rfl | rfl | rfl
    · exact ⟨true, rfl⟩
    · exact ⟨false, rfl⟩
    · exact ⟨true, rfl⟩
  · exact .swap ..

end

end Clearance
