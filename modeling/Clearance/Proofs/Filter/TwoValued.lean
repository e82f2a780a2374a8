/-
  Filters are never null.

  * `Clause.Decided c`: on all rows that a database can hold, the clause `c` is true or false, if
    its searches for patterns succeed; `Clause.NeverRuns c`: it has a constant that no database can
    be given;
  * `Guarded.decided`: guarded tests are decided, if their constants can be bound and none of
    them is a NaN, which a database would take for null;
  * `Expr.decided_of_clause`: so is the clause of every tree, by `MadeOf.decided` for joins and
    negations, and because the rows of an inner selection are always so many or not;
  * `Rule.compile_decided`: the same of a rule, its parts and its negation;
  * `Rule.select_fails_on_number`: a search in a column of numbers leaves no row to any of them.
-/
import Clearance.Proofs.Filter.Declared
import Clearance.Proofs.Sql.Running
import Clearance.Proofs.Sql.Truth

namespace Clearance

open Sql

variable {F : Type} {config : Config} {d : Declarations} {actor : Value}

namespace Sql.Clause

/-- A clause that is true or false on all rows that a database can hold and in which its searches
    succeed. -/
def Decided [CharacterNames] (c : Clause) : Prop :=
  ∀ db frames, (∀ f ∈ frames, Frame.Storable f) → c.Searchable db frames →
    ∃ b, c.truthValue db frames = some b

/-- No selection with the clause as its condition can be run. -/
def NeverRuns [CharacterNames] (c : Clause) : Prop :=
  ∀ columns db, ∃ err, (Selection.mk columns c).run db = .error err

/-- A clause without a NaN can be given all its constants, or it cannot be run. -/
theorem binds_or_neverRuns [CharacterNames] {c : Clause} (h : ∀ v ∈ c.bound, v.isNan = false) :
    (∀ v ∈ c.bound, v.Binds) ∨ c.NeverRuns := by
  by_cases hb : ∀ v ∈ c.bound, v.Bindable
  · exact .inl fun v hv => ⟨hb v hv, h v hv⟩
  · refine .inr fun columns db => ?_
    cases hr : (Selection.mk columns c).run db with
    | error err => exact ⟨err, rfl⟩
    | ok rows => exact absurd (Selection.bindable_of_run hr) hb

/-! ## Tests -/

theorem exists_orderOf {frames : List Frame} (hf : ∀ f ∈ frames, f.Storable) {c : Column}
    {v : Value} (hc : readColumn frames c ≠ .null) (hv : v.Binds) (hn : v.isNull = false) :
    ∃ o, orderOf frames c (.value v) = some o :=
  let ⟨hx, hy⟩ := (readColumn_present hf hc).fit c.type none (hv.present hn)
  hx.compare? hy

theorem exists_isOneOf {frames : List Frame} (hf : ∀ f ∈ frames, f.Storable) {c : Column}
    (hc : readColumn frames c ≠ .null) {values : List Scalar}
    (hv : ∀ s ∈ values, (Value.scalar s).Binds ∧ (Value.scalar s).isNull = false) :
    ∃ b, isOneOf frames c values = some b := by
  induction values with
  | nil => exact ⟨false, rfl⟩
  | cons s rest ih =>
    obtain ⟨b, hb⟩ := ih fun t ht => hv t (by simp [ht])
    obtain ⟨hs, hn⟩ := hv s (by simp)
    obtain ⟨o, ho⟩ := exists_orderOf hf hc hs hn
    exact ⟨_, by rw [isOneOf, ho, hb, Option.map_some, or3_some]⟩

/-- A test of a column that is not null is true or false. -/
theorem Tests.exists_truth [CharacterNames] {c : Column} {t : Clause} (h : Tests c t)
    {frames : List Frame} (hf : ∀ f ∈ frames, f.Storable) (hc : readColumn frames c ≠ .null)
    (hb : ∀ v ∈ t.testBound, v.Binds ∧ v.isNull = false) {db : Database}
    (hs : t.Searchable db frames) : ∃ b, t.truthValue db frames = some b := by
  have e : t.truthValue db frames = testTruth frames t := by cases h <;> rfl
  rw [e]
  obtain ⟨s, htext⟩ := (readColumn_present hf hc).likeText?
  cases h with
  | equalsBool b =>
    have hv : (Value.bool b).Binds := ⟨⟨_, rfl⟩, rfl⟩
    obtain ⟨o, ho⟩ := exists_orderOf hf hc hv rfl
    exact ⟨_, by rw [testTruth, ho, Option.map_some]⟩
  | equals v =>
    obtain ⟨hv, hn⟩ := hb v (by simp [testBound])
    obtain ⟨o, ho⟩ := exists_orderOf hf hc hv hn
    exact ⟨_, by rw [testTruth, ho, Option.map_some]⟩
  | order op v =>
    obtain ⟨hv, hn⟩ := hb v (by simp [testBound])
    obtain ⟨o, ho⟩ := exists_orderOf hf hc hv hn
    exact ⟨_, by rw [testTruth, ho, Option.map_some]⟩
  | oneOf values => exact exists_isOneOf hf hc fun s hs => hb _ (by simp [testBound, hs])
  | affix | like | likeLower => exact ⟨_, by rw [testTruth, htext]; rfl⟩
  | regexp pattern =>
    obtain ⟨program, hp⟩ := hs.pattern (c, pattern) List.mem_cons_self
    exact exists_regexpHolds hp
      (readColumn_searchable (hs.frame (c, pattern) List.mem_cons_self)) hc

/-- **Guarded tests are decided.** -/
theorem Guarded.decided [CharacterNames] {t : Clause} (h : Guarded t)
    (hb : ∀ v ∈ t.bound, v.Binds ∧ v.isNull = false) : Decided t := by
  intro db frames hf hs
  cases h with
  | isNull c | isNotNull c | same a b => exact ⟨_, rfl⟩
  | @test c t ht =>
    rw [truthValue_guarded]
    split
    · exact ⟨false, rfl⟩
    · rename_i hc
      have hb' : ∀ v ∈ t.testBound, v.Binds ∧ v.isNull = false := by
        rw [ht.conj_eq] at hb
        cases ht <;> simp_all [bound, boundAll, testBound]
      have hs' : t.Searchable db frames := hs.mono fun q hq => by
        rw [ht.conj_eq]
        simpa [searches, searchesAll, testSearches] using hq
      exact ht.exists_truth hf hc hb' hs'
  | order op c e =>
    rw [truthValue_guarded₂]
    split
    · exact ⟨false, rfl⟩
    · rename_i h
      obtain ⟨hc, he⟩ := not_or.1 h
      have hp := (readColumn_present hf hc).fit c.type e.type (readColumn_present hf he)
      obtain ⟨o, ho⟩ := hp.1.compare? hp.2
      exact ⟨op.admits o, congrArg (Option.map op.admits) ho⟩

/-! ## Joins -/

theorem exists_allTrue [CharacterNames] {db : Database} {frames : List Frame} {cs : List Clause}
    (h : ∀ c ∈ cs, ∃ b, c.truthValue db frames = some b) :
    ∃ b, allTrue db frames cs = some b := by
  induction cs with
  | nil => exact ⟨true, rfl⟩
  | cons c rest ih =>
    obtain ⟨a, ha⟩ := h c (by simp)
    obtain ⟨b, hb⟩ := ih fun c hc => h c (by simp [hc])
    exact ⟨_, by rw [allTrue, ha, hb, and3_some]⟩

theorem exists_someTrue [CharacterNames] {db : Database} {frames : List Frame} {cs : List Clause}
    (h : ∀ c ∈ cs, ∃ b, c.truthValue db frames = some b) :
    ∃ b, someTrue db frames cs = some b := by
  induction cs with
  | nil => exact ⟨false, rfl⟩
  | cons c rest ih =>
    obtain ⟨a, ha⟩ := h c (by simp)
    obtain ⟨b, hb⟩ := ih fun c hc => h c (by simp [hc])
    exact ⟨_, by rw [someTrue, ha, hb, or3_some]⟩

/-- What is made of decided clauses is decided.  The values that are bound in a part are bound in
    the whole, unless the part was displaced, and then it does not matter. -/
theorem MadeOf.decided [CharacterNames] {P : Clause → Prop} {V : Value → Prop}
    (hP : ∀ c, P c → (∀ v ∈ c.bound, V v) → Decided c) {c : Clause} (h : MadeOf P c)
    (hb : ∀ v ∈ c.bound, V v) : Decided c := by
  induction h with
  | base hc => exact hP _ hc hb
  | truth b => exact fun _ _ _ _ => ⟨b, rfl⟩
  | @conj cs _ ih =>
    intro db frames hf hs
    rw [truthValue_conj]
    rcases joined_bound.conj cs with ⟨hm, -⟩ | hbound
    · exact ⟨false, allTrue_of_mem_false db frames hm⟩
    rcases joined_searches.conj cs with ⟨hm, -⟩ | hsearches
    · exact ⟨false, allTrue_of_mem_false db frames hm⟩
    rw [hbound] at hb
    exact exists_allTrue fun c hc =>
      ih c hc (fun v hv => hb v (List.mem_flatMap.2 ⟨c, hc, hv⟩)) db frames hf
        (hs.mono fun q hq => hsearches ▸ List.mem_flatMap.2 ⟨c, hc, hq⟩)
  | @disj cs _ ih =>
    intro db frames hf hs
    rw [truthValue_disj]
    rcases joined_bound.disj cs with ⟨hm, -⟩ | hbound
    · exact ⟨true, someTrue_of_mem_true db frames hm⟩
    rcases joined_searches.disj cs with ⟨hm, -⟩ | hsearches
    · exact ⟨true, someTrue_of_mem_true db frames hm⟩
    rw [hbound] at hb
    exact exists_someTrue fun c hc =>
      ih c hc (fun v hv => hb v (List.mem_flatMap.2 ⟨c, hc, hv⟩)) db frames hf
        (hs.mono fun q hq => hsearches ▸ List.mem_flatMap.2 ⟨c, hc, hq⟩)
  | @negate c _ ih =>
    intro db frames hf hs
    rw [joined_bound.negate] at hb
    obtain ⟨b, e⟩ := ih hb db frames hf (hs.mono fun q hq => by rwa [joined_searches.negate])
    exact ⟨!b, by rw [truthValue_negate, e]; rfl⟩

end Sql.Clause

/-! ## Trees -/

/-- **The clause of a tree is decided**, if its constants can be bound and none is a NaN. -/
theorem Expr.decided_of_clause [CharacterNames] (e : Expr Empty) : ∀ {opened c},
    e.clause config d actor opened = .ok c → (∀ v ∈ c.bound, v.Binds) → c.Decided := by
  induction e using treeInduction with
  | literal value =>
    intro opened c h _
    cases h
    exact fun _ _ _ _ => ⟨value, rfl⟩
  | leaf e he =>
    intro opened c h hb
    rw [clause_leaf he] at h
    exact (leafClause_madeOf he h).decided (V := fun v => v.Binds ∧ v.isNull = false)
      (fun t ht => ht.guarded.decided) fun v hv => ⟨hb v hv, (leafClause_bound he h v hv).1⟩
  | function fn => exact fn.elim
  | related kind table predicate minCount _ =>
    intro opened c h _
    obtain ⟨columns, owner, p, -, -, -, rfl⟩ := clause_related_eq_ok.1 h
    intro db frames _ _
    unfold rowsClause
    split
    · exact ⟨true, rfl⟩
    · exact ⟨_, by rw [Clause.truthValue]⟩
    · exact ⟨_, by rw [Clause.truthValue]⟩
  | not e ih =>
    intro opened c h hb
    obtain ⟨p, hp, rfl⟩ := clause_not_eq_ok.1 h
    exact (Clause.MadeOf.base hp).negate.decided (fun _ => ih) hb
  | junction kind rules ih =>
    intro opened c h hb
    obtain ⟨cs, hcs, rfl⟩ := clause_junction_eq_ok.1 h
    refine (junctionClause_madeOf (P := (· ∈ cs)) kind fun c hc => .base hc).decided
      (fun c hc hb => ?_) hb
    obtain ⟨e, he, hc⟩ := exists_of_mem_clauses hcs hc
    exact ih e he hc hb

/-- The nodes of a tree that has a clause have clauses. -/
theorem Expr.clause_of_scopedNodes (e : Expr Empty) : ∀ {opened c},
    e.clause config d actor opened = .ok c →
    ∀ n ∈ e.scopedNodes opened, ∃ c', n.item.clause config d actor n.around = .ok c' := by
  induction e using treeInduction with
  | literal value =>
    intro opened c _ n hn
    rw [scopedNodes, List.mem_singleton] at hn
    subst hn
    exact ⟨_, rfl⟩
    all_goals simp
  | leaf e he =>
    intro opened c h n hn
    rw [scopedNodes_leaf he, List.mem_singleton] at hn
    subst hn
    exact ⟨c, h⟩
  | function fn => exact fn.elim
  | related kind table predicate minCount ih =>
    intro opened c h n hn
    rcases List.mem_cons.1 hn with rfl | hn
    · exact ⟨c, h⟩
    · obtain ⟨columns, owner, p, -, -, hp, -⟩ := clause_related_eq_ok.1 h
      exact ih hp n hn
  | not e ih =>
    intro opened c h n hn
    rcases List.mem_cons.1 hn with rfl | hn
    · exact ⟨c, h⟩
    · obtain ⟨p, hp, -⟩ := clause_not_eq_ok.1 h
      exact ih hp n hn
  | junction kind rules ih =>
    intro opened c h n hn
    rcases List.mem_cons.1 hn with rfl | hn
    · exact ⟨c, h⟩
    · obtain ⟨cs, hcs, -⟩ := clause_junction_eq_ok.1 h
      obtain ⟨e, he, hn⟩ := mem_scopedAll.1 hn
      obtain ⟨c', -, hc⟩ := exists_clause hcs he
      exact ih e he hc n hn

/-! ## Rules -/

theorem expandWithin_not {call : Meaning F} {remaining : Nat} {e : Expr F} {t : Expr Empty}
    (h : expandWithin call actor remaining e = some t) :
    expandWithin call actor remaining (.not e) = some (.not t) := by
  cases remaining with
  | zero => rw [expandWithin] at h ⊢; rw [Expr.substitute, h]; rfl
  | succ remaining => rw [expandWithin] at h ⊢; rw [Expr.substitute, h]; rfl

/-- The filter of a negated rule is the negation of the filter of the rule. -/
theorem Rule.compile_not {call : Meaning F} {r : Rule F} {e : Expr F} {c c' : Clause}
    (he : r.toExpr = .ok e) (h : (r.compile config call d actor).result = .ok c)
    (h' : ((Rule.expr (.not e)).compile config call d actor).result = .ok c') : c' = c.negate := by
  obtain ⟨t, ht, hc⟩ := Rule.expansion_of_compile h
  obtain ⟨e', he', hx⟩ := Rule.expansion_eq_some.1 ht
  rw [he] at he'
  cases he'
  have hn : (Rule.expr (.not e)).expansion config call actor = some (.not t) :=
    Rule.expansion_eq_some.2 ⟨_, rfl, expandWithin_not hx⟩
  have hk := (Rule.compile_follows (d := d) hn).eq_ok h'
  rw [Expr.clause, hc] at hk
  exact (Except.ok.inj hk).symm

/-- **Filters are two-valued.**  If none of its constants is a NaN, a filter is true or false on
    all rows that a database can hold and in which its searches succeed, and so is the clause of
    each node of the rule, or else it has constants that it cannot be run with; of the filters of a
    rule and of its negation, neither of which fails, each such row is selected by one.  All that is
    searched in a filter are patterns of the rule, in the columns of their paths. -/
theorem Rule.compile_decided [CharacterNames] (config : Config) (d : Declarations) (actor : Value)
    (call : Meaning F) (r : Rule F) (c : Clause)
    (h : (r.compile config call d actor).result = .ok c) :
    ∃ e, r.expansion config call actor = some e ∧
      (∀ q ∈ c.searches, ∃ n ∈ e.scopedNodes [], n.item.Searches d n.around q) ∧
      (∀ n ∈ e.scopedNodes [], ∃ c', n.item.clause config d actor n.around = .ok c' ∧
        ((∀ v ∈ c'.bound, v.isNan = false) → c'.Decided ∨ c'.NeverRuns)) ∧
      ((∀ v ∈ c.bound, v.isNan = false) → c.NeverRuns ∨ c.Decided ∧
        ∀ expr c', r.toExpr = .ok expr →
          ((Rule.expr (.not expr)).compile config call d actor).result = .ok c' →
          c'.tables = c.tables ∧ ∀ db frames, (∀ f ∈ frames, Frame.Storable f) →
            c.Searchable db frames →
              c.fails db frames = false ∧ c'.fails db frames = false ∧
              (c'.truthValue db frames = some true ↔ c.truthValue db frames ≠ some true)) := by
  obtain ⟨e, he, hc⟩ := Rule.expansion_of_compile h
  refine ⟨e, he, e.searches_of_clause hc, fun n hn => ?_, fun hnan => ?_⟩
  · obtain ⟨c', hc'⟩ := e.clause_of_scopedNodes hc n hn
    exact ⟨c', hc', fun hnan =>
      (Clause.binds_or_neverRuns hnan).imp_left (n.item.decided_of_clause hc')⟩
  · rcases Clause.binds_or_neverRuns hnan with hb | hr
    · have hd := e.decided_of_clause hc hb
      refine .inr ⟨hd, fun expr c' hx h' => ?_⟩
      obtain rfl := Rule.compile_not hx h h'
      refine ⟨by rw [Clause.tables, Clause.joined_columns.negate, Clause.tables],
        fun db frames hf hs => ⟨c.fails_eq_false hs, c.negate.fails_eq_false (hs.mono fun q hq =>
          by rwa [Clause.joined_searches.negate] at hq), ?_⟩⟩
      obtain ⟨b, e⟩ := hd db frames hf hs
      rw [Clause.truthValue_negate, e]
      cases b <;> simp [not3]
    · exact .inl hr

section

attribute [local instance] CharacterNames.empty

/-- Where the owner is null, an order against it is false, and its negation is true. -/
theorem Rule.compile_decided_of_order :
    let c := Clause.conj [.isNotNull ⟨"owner_id", some "items", some .int⟩,
      .order .gt ⟨"owner_id", some "items", some .int⟩ (.value (.int 3))]
    c.Decided ∧ ∀ db frames, (∀ f ∈ frames, Frame.Storable f) →
      (c.negate.truthValue db frames = some true ↔ c.truthValue db frames ≠ some true) := by
  intro c
  obtain ⟨_, -, -, -, h⟩ := Rule.compile_decided {} itemTables .null noFunctions
    (.expr (.comparison .gt ⟨false, "item", "owner_id"⟩ (.scalar (.int 3))) : Rule Empty) c rfl
  have hb : c.bound = [.int 3] := rfl
  rcases h (by rw [hb]; simp [Value.isNan]) with hr | ⟨hd, hn⟩
  · obtain ⟨err, h⟩ := hr [⟨"id", some "items", some .int⟩] []
    cases h
  · refine ⟨hd, fun db frames hf => ?_⟩
    obtain ⟨-, -, htruth⟩ := (hn _ _ rfl rfl).2 db frames hf (.of_nil rfl)
    exact htruth

/-- A search in a column of numbers fails, and so does one behind a negation: of two filters, one
    for the opposite of the other, neither selects a row. -/
theorem Rule.select_fails_on_number :
    let e : Expr Empty := .matches ⟨false, "item", "owner_id"⟩ "7" []
    let config : Config := { regexStrategy := .native }
    let db : Database := [("items", [[("id", .integer 1), ("owner_id", .integer 7)]])]
    ∃ c c', ((Rule.expr e).compile config noFunctions itemTables .null).result = .ok c ∧
      ((Rule.expr (.not e)).compile config noFunctions itemTables .null).result = .ok c' ∧
      (∀ v ∈ c.bound, v.isNan = false) ∧
      (Selection.mk [⟨"id", some "items", some .int⟩] c).run db = .error .databaseFailure ∧
      (Selection.mk [⟨"id", some "items", some .int⟩] c').run db = .error .databaseFailure :=
  ⟨_, _, rfl, rfl, fun _ hv => by cases List.mem_singleton.1 hv; rfl, rfl, rfl⟩

end

end Clearance
