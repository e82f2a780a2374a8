/-
  A tree is decided as its clause is.

  * `Declarations.Arranges`: the paths of the subject are of the main table, and the related
    tables are SQL tables of their own, each opened once; `Declarations.Binds`: they are SQL tables;
  * `Expr.LeavesAgree`: the tests of columns come out the same on both sides;
  * `rowsClause_truth`: rows are counted in the same way, if a selection names its own table only;
  * `Expr.Agrees`: a tree comes out as its clause does, if all inner selections name their own
    tables only; it does so if its parts do, related nodes included (`Expr.Agrees.related`);
  * `Expr.agree`: so the whole tree comes out the same if its tests of columns do.
-/
import Clearance.Proofs.Agreement.Scene
import Clearance.Proofs.Sql.Naming
import Clearance.Proofs.Sql.Truth

namespace Clearance

open Sql

variable {F : Type} {config : Config} {d : Declarations} {actor : Value} {main : String}
  {owner : String → String} {db : Database}

/-! ## Trees over tables -/

/-- The paths of the subject are of the main table; each related table belongs to a SQL table that
    is neither that of the main table nor of one that is open around it. -/
structure Declarations.Arranges (d : Declarations) (main : String) (owner : String → String)
    (opened : List String) (e : Expr F) : Prop where
  subject : ∀ columns, d.Finds main false columns → columns.BelongTo (owner main)
  path : ∀ n ∈ e.scopedNodes opened, ∀ p ∈ n.item.nodePaths, p.isScoped = false → p.table = main
  related : ∀ n ∈ e.scopedNodes opened, ∀ kind table predicate minCount,
    n.item = .related kind table predicate minCount →
      table ≠ main ∧ owner table ≠ owner main ∧ owner table ∉ n.around.map owner ∧
        ∀ columns, d.Finds table true columns → columns.BelongTo (owner table)

/-- The paths of the subject are of the main table, and each table belongs to a SQL table, which may
    be that of others as well. -/
structure Declarations.Binds (d : Declarations) (main : String) (owner : String → String)
    (opened : List String) (e : Expr F) : Prop where
  subject : ∀ columns, d.Finds main false columns → columns.BelongTo (owner main)
  path : ∀ n ∈ e.scopedNodes opened, ∀ p ∈ n.item.nodePaths, p.isScoped = false → p.table = main
  related : ∀ n ∈ e.scopedNodes opened, ∀ kind table predicate minCount,
    n.item = .related kind table predicate minCount →
      table ≠ main ∧ ∀ columns, d.Finds table true columns → columns.BelongTo (owner table)

/-- The tests of columns in a tree come out the same on both sides. -/
def Expr.LeavesAgree [CharacterNames] (config : Config) (d : Declarations) (actor : Value)
    (main : String) (owner : String → String) (db : Database) (opened : List String)
    (e : Expr Empty) : Prop :=
  ∀ n ∈ e.scopedNodes opened, n.item.isLeaf = true →
    ∀ s : Scene, s.Valid d main owner db → s.opened = n.around →
      ∀ c, leafClause config d actor n.around n.item = .ok c →
        ∃ b, evaluateLeaf config actor (s.resources d main owner db) n.around n.item = .ok b ∧
          c.truthValue db (s.frames main owner) = some b

theorem Declarations.Arranges.mono {opened opened' : List String} {e e' : Expr F}
    (h : d.Arranges main owner opened e)
    (hn : ∀ n ∈ e'.scopedNodes opened', n ∈ e.scopedNodes opened) :
    d.Arranges main owner opened' e' :=
  ⟨h.subject, fun n h' => h.path n (hn n h'), fun n h' => h.related n (hn n h')⟩

theorem Declarations.Arranges.binds {opened : List String} {e : Expr F}
    (h : d.Arranges main owner opened e) : d.Binds main owner opened e where
  subject := h.subject
  path := h.path
  related n hn kind table predicate minCount he := by
    obtain ⟨hne, -, -, hb⟩ := h.related n hn kind table predicate minCount he
    exact ⟨hne, hb⟩

theorem Expr.LeavesAgree.mono [CharacterNames] {opened opened' : List String} {e e' : Expr Empty}
    (h : e.LeavesAgree config d actor main owner db opened)
    (hn : ∀ n ∈ e'.scopedNodes opened', n ∈ e.scopedNodes opened) :
    e'.LeavesAgree config d actor main owner db opened' :=
  fun n h' => h n (hn n h')

/-! ## Rows -/

theorem decide_one_le_countP {α : Type} (f : α → Bool) (l : List α) :
    decide (1 ≤ l.countP f) = l.any f := by
  have h : 1 ≤ l.countP f ↔ l.any f = true := by
    rw [Nat.one_le_iff_ne_zero, ← Nat.pos_iff_ne_zero, List.countP_pos_iff, List.any_eq_true]
  by_cases ha : l.any f = true
  · rw [ha, decide_eq_true (h.2 ha)]
  · rw [Bool.not_eq_true] at ha
    rw [ha, decide_eq_false fun hc => by simp [h.1 hc] at ha]

theorem countP_frames [CharacterNames] {table : String} {p : Clause} {frames : List Frame}
    {f : Row → Bool}
    (h : ∀ r ∈ db.rows table, p.truthValue db ([(table, r)] :: frames) = some (f r)) :
    (db.frames [table]).countP (fun frame => p.truthValue db (frame :: frames) == some true) =
      (db.rows table).countP f := by
  rw [Database.frames_singleton, List.countP_map]
  refine List.countP_congr fun r hr => ?_
  show (p.truthValue db ([(table, r)] :: frames) == some true) = true ↔ _
  rw [h r hr]
  cases f r <;> simp

/-- Inner selections that name their own tables only count the rows of these tables. -/
theorem rowsClause_truth [CharacterNames] {table : String} {p : Clause} {frames : List Frame}
    {n : Nat} {f : Row → Bool}
    (hs : ∀ q ∈ (rowsClause table p n).selections (namedTables frames), q.2 = [q.1])
    (h : (∀ q ∈ p.selections (some [table]), q.2 = [q.1]) →
      ∀ r ∈ db.rows table, p.truthValue db ([(table, r)] :: frames) = some (f r)) :
    (rowsClause table p n).truthValue db frames =
      some (decide (n ≤ (db.rows table).countP f)) := by
  unfold rowsClause at hs ⊢
  split at hs
  · simp [Clause.truthValue, testTruth]
  · rw [Clause.selections, List.forall_mem_cons] at hs
    obtain ⟨hv, hs⟩ := hs
    dsimp only at hv
    rw [hv] at hs
    rw [Clause.truthValue, hv, ← decide_one_le_countP, countP_frames (h hs)]
  · rw [Clause.selections, List.forall_mem_cons] at hs
    obtain ⟨hv, hs⟩ := hs
    dsimp only at hv
    rw [hv] at hs
    rw [Clause.truthValue, hv, countP_frames (h hs)]
    rfl

/-! ## Junctions -/

/-- The value that settles a junction. -/
theorem joined_junction {α : Type} {f : Clause → List α} (hf : Clause.Joined f) (kind : Junction)
    (cs : List Clause) : (.truth (kind == .or) ∈ cs ∧ f (junctionClause kind cs) = []) ∨
      f (junctionClause kind cs) = cs.flatMap f := by
  unfold junctionClause
  split
  · exact .inr (hf.truth _)
  · exact .inr (hf.truth _)
  · exact .inr (by simp)
  · exact hf.conj _
  · exact hf.disj _

/-- Clauses that come out as rules do are worth together what the rules are. -/
theorem clauses_agree [CharacterNames] {rules : List (Expr Empty)} {cs : List Clause}
    {opened : List String} {frames : List Frame} {f : Expr Empty → Bool}
    (hcs : List.Forall₂ (fun e c => e.clause config d actor opened = .ok c) rules cs)
    (h : ∀ e ∈ rules, ∀ c ∈ cs, e.clause config d actor opened = .ok c →
      c.truthValue db frames = some (f e)) (kind : Junction) :
    (match kind with
      | .and => Clause.allTrue db frames cs
      | .or => Clause.someTrue db frames cs) = some (kind.of f rules) := by
  induction hcs with
  | nil => cases kind <;> rfl
  | @cons e c rest cs he _ ih =>
    have ih := ih fun e' he' c' hc' => h e' (List.mem_cons_of_mem _ he') c' (List.mem_cons_of_mem _ hc')
    have hc := h e (by simp) c (by simp) he
    cases kind with
    | and =>
      dsimp only at ih ⊢
      rw [Clause.allTrue, hc, ih, and3_some, Junction.of, Junction.of, List.all_cons]
    | or =>
      dsimp only at ih ⊢
      rw [Clause.someTrue, hc, ih, or3_some, Junction.of, Junction.of, List.any_cons]

/-- A junction comes out as its rules do, where the inner selections in them do.  A rule whose
    clause was displaced need not come out right: the rule that displaced it settles both sides. -/
theorem junction_agree [CharacterNames] {kind : Junction} {rules : List (Expr Empty)}
    {cs : List Clause} {opened : List String} {frames : List Frame} {f : Expr Empty → Bool}
    (hcs : Expr.clauses config d actor opened rules = .ok cs)
    (h : ∀ e ∈ rules, ∀ c, e.clause config d actor opened = .ok c →
      (∀ q ∈ c.selections (namedTables frames), q.2 = [q.1]) →
        c.truthValue db frames = some (f e))
    (hs : ∀ q ∈ (junctionClause kind cs).selections (namedTables frames), q.2 = [q.1]) :
    (junctionClause kind cs).truthValue db frames = some (kind.of f rules) := by
  rw [Clause.truthValue_junctionClause]
  rcases joined_junction (Clause.joined_selections (namedTables frames)) kind cs with ⟨hm, -⟩ | e
  · obtain ⟨e, he, hc⟩ := Expr.exists_of_mem_clauses hcs hm
    have hf : f e = (kind == .or) :=
      (Option.some.inj (h e he _ hc fun q hq => nomatch hq)).symm
    cases kind with
    | and =>
      dsimp only
      rw [Clause.allTrue_of_mem_false db frames hm, Junction.of,
        List.all_eq_false.2 ⟨e, he, by rw [hf]; exact Bool.false_ne_true⟩]
    | or =>
      dsimp only
      rw [Clause.someTrue_of_mem_true db frames hm, Junction.of, List.any_eq_true.2 ⟨e, he, hf⟩]
  · rw [e] at hs
    exact clauses_agree (Expr.clauses_eq_ok.1 hcs) (fun e he c hc hec =>
      h e he c hec fun q hq => hs q (List.mem_flatMap.2 ⟨c, hc, hq⟩)) kind

/-! ## Trees -/

/-- A tree is decided as its clause is, with some rows at hand on both sides: the decision does not
    fail, and where all inner selections name their own tables only, the clause has its truth
    value. -/
def Expr.Agrees [CharacterNames] (config : Config) (d : Declarations) (actor : Value)
    (db : Database) (resources : Value) (opened : List String) (frames : List Frame)
    (e : Expr Empty) : Prop :=
  ∀ c, e.clause config d actor opened = .ok c →
    ∃ b, e.decision config actor resources opened = .ok b ∧
      ((∀ q ∈ c.selections (namedTables frames), q.2 = [q.1]) → c.truthValue db frames = some b)

namespace Expr.Agrees

variable {resources : Value} {opened : List String} {frames : List Frame}

theorem literal [CharacterNames] (value : Bool) :
    (Expr.literal value).Agrees config d actor db resources opened frames := by
  rintro c ⟨⟩
  exact ⟨value, rfl, fun _ => rfl⟩

theorem leaf [CharacterNames] {e : Expr Empty} (he : e.isLeaf = true)
    (h : ∀ c, leafClause config d actor opened e = .ok c →
      ∃ b, evaluateLeaf config actor resources opened e = .ok b ∧
        c.truthValue db frames = some b) :
    e.Agrees config d actor db resources opened frames := by
  intro c hc
  rw [clause_leaf he] at hc
  obtain ⟨b, hb, ht⟩ := h c hc
  exact ⟨b, by rw [decision_leaf he, hb], fun _ => ht⟩

theorem not [CharacterNames] {e : Expr Empty}
    (h : e.Agrees config d actor db resources opened frames) :
    (Expr.not e).Agrees config d actor db resources opened frames := by
  intro c hc
  obtain ⟨p, hp, rfl⟩ := clause_not_eq_ok.1 hc
  obtain ⟨b, hb, ht⟩ := h p hp
  refine ⟨!b, by rw [decision, hb]; rfl, fun hs => ?_⟩
  rw [(Clause.joined_selections _).negate] at hs
  rw [Clause.truthValue_negate, ht hs]
  rfl

theorem junction [CharacterNames] {kind : Junction} {rules : List (Expr Empty)}
    (h : ∀ e ∈ rules, e.Agrees config d actor db resources opened frames) :
    (Expr.junction kind rules).Agrees config d actor db resources opened frames := by
  intro c hc
  obtain ⟨cs, hcs, rfl⟩ := clause_junction_eq_ok.1 hc
  let f : Expr Empty → Bool := fun e =>
    (e.decision config actor resources opened).toOption.getD false
  have hf : ∀ e ∈ rules, e.decision config actor resources opened = .ok (f e) := by
    intro e he
    obtain ⟨c, -, hc⟩ := exists_clause hcs he
    obtain ⟨b, hb, -⟩ := h e he c hc
    simp only [f, hb, Except.toOption, Option.getD_some]
  refine ⟨_, by rw [decision, decisionAll_eq_ok hf], junction_agree hcs fun e he c hc hs => ?_⟩
  obtain ⟨b, hb, ht⟩ := h e he c hc
  rw [ht hs, ← Except.ok.inj ((hf e he).symm.trans hb)]

end Expr.Agrees

/-! ## Related nodes -/

/-- A related node is decided by the number of rows of the table that the predicate holds for. -/
theorem related_decision [CharacterNames] {s : Scene} {kind : RelatedKind} {table : String}
    {predicate : Expr Empty} {minCount : Nat} {columns : Columns} (hf : d.Finds table true columns)
    (hclosed : table ∉ s.opened) (hne : table ≠ main) {f : Row → Bool}
    (hrow : ∀ r ∈ db.rows (owner table), predicate.decision config actor
      ((Scene.mk s.row ((table, r) :: s.current)).resources d main owner db)
      (s.opened ++ [table]) = .ok (f r)) :
    (Expr.related kind table predicate minCount).decision config actor
        (s.resources d main owner db) s.opened =
      .ok (decide (minCount ≤ (db.rows (owner table)).countP f)) := by
  let g : Value → Bool := fun v => (do
    let bound ← bindTable (s.resources d main owner db) table v
    predicate.decision config actor bound (s.opened ++ [table])).toOption.getD false
  -- each row of the table makes a scene of its own
  have hdec : ∀ r ∈ db.rows (owner table), (do
      let bound ← bindTable (s.resources d main owner db) table (columns.record r)
      predicate.decision config actor bound (s.opened ++ [table])) = .ok (f r) := by
    intro r hr
    rw [Scene.bindTable_resources hf]
    exact hrow r hr
  have hg : ∀ r ∈ db.rows (owner table), g (columns.record r) = f r := by
    intro r hr
    simp only [g]
    rw [hdec r hr]
    rfl
  have hok : ∀ v ∈ (db.rows (owner table)).map columns.record, (do
      let bound ← bindTable (s.resources d main owner db) table v
      predicate.decision config actor bound (s.opened ++ [table])) = .ok (g v) := by
    intro v hv
    obtain ⟨r, hr, rfl⟩ := List.mem_map.1 hv
    rw [hdec r hr, hg r hr]
  rw [Expr.decision, Scene.rows_of_closed hclosed hne hf]
  split
  · rename_i h0
    simp [beq_iff_eq.1 h0]
  · rw [← List.countP_congr (p := g ∘ columns.record) fun r hr => by
      rw [Function.comp_apply, hg r hr], ← List.countP_map, ← countRows_eq_ok hok]
    rfl

/-- A related node comes out as its clause does, if the predicate does so for each row of the
    table. -/
theorem Expr.Agrees.related [CharacterNames] {s : Scene} {kind : RelatedKind} {table : String}
    {predicate : Expr Empty} {minCount : Nat} (hclosed : table ∉ s.opened) (hne : table ≠ main)
    (hb : ∀ columns, d.Finds table true columns → columns.BelongTo (owner table))
    (hrow : ∀ r ∈ db.rows (owner table), predicate.Agrees config d actor db
      ((Scene.mk s.row ((table, r) :: s.current)).resources d main owner db) (s.opened ++ [table])
      ([(owner table, r)] :: s.frames main owner)) :
    (Expr.related kind table predicate minCount).Agrees config d actor db
      (s.resources d main owner db) s.opened (s.frames main owner) := by
  intro c hc
  obtain ⟨columns, name, p, ht, ho, hp, rfl⟩ := clause_related_eq_ok.1 hc
  have hf := Declarations.declared_eq_ok.1 ht
  obtain rfl := (hb columns hf).owner_eq ho
  let f : Row → Bool := fun r => (predicate.decision config actor
    ((Scene.mk s.row ((table, r) :: s.current)).resources d main owner db)
    (s.opened ++ [table])).toOption.getD false
  have hdec : ∀ r ∈ db.rows (owner table), predicate.decision config actor
      ((Scene.mk s.row ((table, r) :: s.current)).resources d main owner db)
      (s.opened ++ [table]) = .ok (f r) := by
    intro r hr
    obtain ⟨b, hb, -⟩ := hrow r hr p hp
    simp only [f, hb, Except.toOption, Option.getD_some]
  refine ⟨_, related_decision hf hclosed hne hdec, fun hs =>
    rowsClause_truth hs fun hs r hr => ?_⟩
  obtain ⟨b, hb, ht⟩ := hrow r hr p hp
  rw [ht hs, ← Except.ok.inj ((hdec r hr).symm.trans hb)]

/-! ## Trees over tables of their own -/

/-- **A tree is decided as its clause is.** -/
theorem Expr.agree [CharacterNames] (e : Expr Empty) : ∀ s : Scene, s.Valid d main owner db →
    d.Arranges main owner s.opened e → e.LeavesAgree config d actor main owner db s.opened →
    e.Agrees config d actor db (s.resources d main owner db) s.opened (s.frames main owner) := by
  induction e using treeInduction with
  | literal value => exact fun s _ _ _ => .literal value
  | leaf e he =>
    intro s hv _ hl
    exact .leaf he (hl ⟨s.opened, e⟩ (self_mem_scopedNodes _ _) he s hv rfl)
  | function fn => exact fn.elim
  | related kind table predicate minCount ih =>
    intro s hv ha hl
    obtain ⟨hne, hno, hnew, hb⟩ := ha.related ⟨s.opened, _⟩ (self_mem_scopedNodes _ _) _ _ _ _ rfl
    refine .related (fun h => hnew (List.mem_map_of_mem h)) hne hb fun r hr => ?_
    have hv' : (Scene.mk s.row ((table, r) :: s.current)).Valid d main owner db := by
      refine ⟨hv.row, hv.subject, .cons hv.rows hr hne hno ?_ hb⟩
      simpa [Scene.opened] using hnew
    have hn : ∀ n ∈ predicate.scopedNodes (s.opened ++ [table]),
        n ∈ (Expr.related kind table predicate minCount).scopedNodes s.opened :=
      fun n hn => mem_scopedNodes_related hn
    rw [← Scene.opened_cons s.row r table s.current] at hn ⊢
    exact ih _ hv' (ha.mono hn) (hl.mono hn)
  | not e ih =>
    intro s hv ha hl
    have hn : ∀ n ∈ e.scopedNodes s.opened, n ∈ (Expr.not e).scopedNodes s.opened :=
      fun n hn => mem_scopedNodes_not hn
    exact .not (ih s hv (ha.mono hn) (hl.mono hn))
  | junction kind rules ih =>
    intro s hv ha hl
    refine .junction fun e he => ?_
    have hn : ∀ n ∈ e.scopedNodes s.opened, n ∈ (Expr.junction kind rules).scopedNodes s.opened :=
      fun n hn => mem_scopedNodes_junction he hn
    exact ih e he s hv (ha.mono hn) (hl.mono hn)

end Clearance
