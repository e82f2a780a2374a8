/-
  What the nodes that test columns are compiled to.

  * `Guarded t`: the clause `t` is a test that does not become null where its columns do;
    `Guarded.On C V S t` adds that its columns are in `C`, that its values, none of which is
    null, are texts or in `V`, and that its searches are in `S`;
  * `leafClause_madeOf`: the clause of a leaf is made of such tests, on the columns of its paths
    and with its constants and its pattern;
  * `columnOf_eq_ok` and `Declarations.column_eq_ok` say which column a path stands for.
-/
import Clearance.Proofs.Filter.Outcome
import Clearance.Proofs.Sql.Joining

namespace Clearance

open Sql

variable {F : Type}

/-! ## Paths -/

/-- The declared columns of a table: of a subject, among the tables; of a related table, among
    the related tables, or among the tables if it is not there. -/
inductive Declarations.Finds (d : Declarations) (name : String) : Bool → Columns → Prop
  | subject {columns} : d.tables.lookup name = some columns → Finds d name false columns
  | related {tables columns} : d.related = some tables → tables.lookup name = some columns →
      Finds d name true columns
  | other {columns} : (∀ tables, d.related = some tables → tables.lookup name = none) →
      d.tables.lookup name = some columns → Finds d name true columns

/-- A path is declared, as the given column. -/
def Declarations.Declares (d : Declarations) (p : PathRef) (h : Handle) : Prop :=
  ∃ columns, d.Finds p.table p.isScoped columns ∧ columns.lookup p.column = some h

theorem Declarations.declared_eq_ok {d : Declarations} {name : String} {isScoped : Bool}
    {columns : Columns} :
    d.declared name isScoped = .ok columns ↔ d.Finds name isScoped columns := by
  unfold Declarations.declared
  constructor
  · intro h
    cases isScoped with
    | false =>
      cases ht : d.tables.lookup name with
      | none => simp [ht] at h
      | some cs =>
        simp only [ht, Bool.false_eq_true, if_false, Except.ok.injEq] at h
        exact h ▸ .subject ht
    | true =>
      cases hr : d.related with
      | none =>
        cases ht : d.tables.lookup name with
        | none => simp [hr, ht] at h
        | some cs =>
          simp only [hr, ht, if_true, Option.bind_none, Except.ok.injEq] at h
          exact h ▸ .other (by simp [hr]) ht
      | some tables =>
        cases hl : tables.lookup name with
        | some cs =>
          simp only [hr, hl, if_true, Option.bind_some, Except.ok.injEq] at h
          exact h ▸ .related hr hl
        | none =>
          cases ht : d.tables.lookup name with
          | none => simp [hr, hl, ht] at h
          | some cs =>
            simp only [hr, hl, ht, if_true, Option.bind_some, Except.ok.injEq] at h
            exact h ▸ .other (by rintro _ h; rw [hr] at h; cases h; exact hl) ht
  · rintro (h | ⟨hr, hl⟩ | ⟨hr, ht⟩)
    · simp [h]
    · simp [hr, hl]
    · cases h : d.related with
      | none => simp [ht]
      | some tables => simp [hr tables h, ht]

theorem Declarations.column_eq_ok {d : Declarations} {p : PathRef} {h : Handle} :
    d.column p = .ok h ↔ d.Declares p h := by
  unfold Declarations.column Declarations.Declares
  simp only [← Declarations.declared_eq_ok]
  cases hd : d.declared p.table p.isScoped with
  | error err => simp [bind, Except.bind]
  | ok columns =>
    cases hl : columns.lookup p.column <;>
      simp [bind, Except.bind, pure, Except.pure, throw, throwThe, MonadExceptOf.throw, hl]

theorem checkScope_eq_ok {p : PathRef} {opened : List String} :
    checkScope p opened = .ok () ↔ (p.isScoped = true → p.table ∈ opened) := by
  unfold checkScope
  cases p.isScoped <;> simp

/-- A path stands for a column if its table is open and it is declared as this column. -/
theorem columnOf_eq_ok {d : Declarations} {opened : List String} {p : PathRef} {c : Column} :
    columnOf d opened p = .ok c ↔
      (p.isScoped = true → p.table ∈ opened) ∧ ∃ h, d.Declares p h ∧ h.column = c := by
  unfold columnOf
  simp only [← checkScope_eq_ok, ← Declarations.column_eq_ok]
  cases checkScope p opened with
  | error err => simp [bind, Except.bind]
  | ok u =>
    cases d.column p <;> simp [bind, Except.bind, pure, Except.pure]

/-! ## Constants -/

theorem Value.isNull_of_ne {v : Value} (h : v = .null → False) : v.isNull = false := by
  unfold Value.isNull
  split
  · exact absurd rfl h
  · rfl

/-- The value of an operand that is no path. -/
def Operand.constant? : Operand → Option Value
  | .path _ => none
  | .actor a => some a.value
  | .scalar s => some (.scalar s)

/-- The values that a node compares its column with. -/
def Expr.constants (config : Config) (actor : Value) : Expr F → List Value
  | .comparison _ _ right => right.constant?.toList
  | .inArray _ values => values.map .scalar
  | .between _ min max => min.constant?.toList ++ max.constant?.toList
  | .tenantScoped path => (lookupTenant actor path.column config.tenantNamespace).toOption.toList
  | .belongsToTenant a _ => [a.value]
  | _ => []

/-- What an operand stands for is the column of its path, or its value. -/
theorem termOf_eq_ok {d : Declarations} {opened : List String} {o : Operand} {t : Term}
    (h : termOf d opened o = .ok t) :
    (∃ p c, o = .path p ∧ columnOf d opened p = .ok c ∧ t = .column c) ∨
      ∃ v, o.constant? = some v ∧ t = .value v := by
  cases o with
  | path p =>
    rw [termOf] at h
    cases hc : columnOf d opened p with
    | error err => rw [hc] at h; cases h
    | ok c => rw [hc] at h; cases h; exact .inl ⟨p, c, rfl, hc, rfl⟩
  | actor a => cases h; exact .inr ⟨_, rfl, rfl⟩
  | scalar s => cases h; exact .inr ⟨_, rfl, rfl⟩

/-! ## Guarded tests -/

namespace Sql.Clause

/-- A test of a column against constants. -/
inductive Tests (c : Column) : Clause → Prop
  | equalsBool (b) : Tests c (.equalsBool c b)
  | equals (v) : Tests c (.equals c v)
  | order (op v) : Tests c (.order op c (.value v))
  | oneOf (values) : Tests c (.oneOf c values)
  | affix (test text) : Tests c (.affix test c text)
  | like (pattern) : Tests c (.like c pattern)
  | likeLower (pattern) : Tests c (.likeLower c pattern)
  | regexp (pattern) : Tests c (.regexp c pattern)

/-- A test that looks at the values of columns only where they are not null. -/
inductive Guarded : Clause → Prop
  | isNull (c) : Guarded (.isNull c)
  | isNotNull (c) : Guarded (.isNotNull c)
  | same (a b) : Guarded (.same a b)
  | test {c t} : Tests c t → Guarded (conj [.isNotNull c, t])
  | order (op c d) : Guarded (conj [.isNotNull c, .isNotNull d, .order op c (.column d)])

/-- A guarded test on some columns, with values and searches of some sort. -/
structure Guarded.On (C : Column → Prop) (V : Value → Prop) (S : Column × String → Prop)
    (t : Clause) : Prop where
  guarded : Guarded t
  columns : ∀ c ∈ t.columns, C c
  bound : ∀ v ∈ t.bound, v.isNull = false ∧ ((∃ s, v = .str s) ∨ V v)
  searches : ∀ q ∈ t.searches, S q

/-- A guarded test joins its guards and a test of a column. -/
theorem Tests.conj_eq {c : Column} {t : Clause} (h : Tests c t) :
    conj [.isNotNull c, t] = .and [.isNotNull c, t] := by
  cases h <;> rfl

theorem Guarded.selections {t : Clause} (h : Guarded t) (outer : Option (List String)) :
    t.selections outer = [] := by
  rcases h with _ | _ | _ | h | _
  · rfl
  · rfl
  · rfl
  · rw [h.conj_eq]; cases h <;> rfl
  · rfl

end Sql.Clause

namespace Sql.Clause.Guarded

variable {C : Column → Prop} {V : Value → Prop} {S : Column × String → Prop} {c : Column}

/-- A test of a column against constants is guarded by a test that the column is not null. -/
theorem On.test {t : Clause} (ht : Tests c t) (hc : C c)
    (hb : ∀ v ∈ t.testBound, v.isNull = false ∧ ((∃ s, v = .str s) ∨ V v))
    (hs : ∀ q ∈ t.testSearches, S q) : On C V S (conj [.isNotNull c, t]) := by
  refine ⟨.test ht, ?_, ?_, ?_⟩ <;> rw [ht.conj_eq] <;> cases ht <;>
    simp_all [Clause.columns, columnsAll, Clause.bound, boundAll, testBound, Clause.searches,
      searchesAll, testSearches]

theorem On.isNull (hc : C c) : On C V S (.isNull c) :=
  ⟨.isNull c, by simpa [Clause.columns] using hc, by simp [Clause.bound, testBound], nofun⟩

theorem On.isNotNull (hc : C c) : On C V S (.isNotNull c) :=
  ⟨.isNotNull c, by simpa [Clause.columns] using hc, by simp [Clause.bound, testBound], nofun⟩

theorem On.same {a b : Column} (ha : C a) (hb : C b) : On C V S (.same a b) :=
  ⟨.same a b, by simpa [Clause.columns] using ⟨ha, hb⟩, by simp [Clause.bound, testBound], nofun⟩

theorem On.order (op : OrderOp) {d : Column} (hc : C c) (hd : C d) :
    On C V S (conj [.isNotNull c, .isNotNull d, .order op c (.column d)]) :=
  ⟨.order op c d,
    by simpa [conj, undecided, conjuncts, Clause.columns, columnsAll] using ⟨hc, hd, hc, hd⟩,
    by simp [conj, undecided, conjuncts, Clause.bound, boundAll, testBound], nofun⟩

end Sql.Clause.Guarded

/-! ## Clauses of leaves -/

/-- The tests whose disjunction is the test for some constants. -/
def oneOfTests (c : Column) (values : List Scalar) : List Clause :=
  (if (values.filter (· != .null)).isEmpty then []
    else [Clause.conj [.isNotNull c, .oneOf c (values.filter (· != .null))]]) ++
  (if (values.filter (· != .null)).length = values.length then [] else [.isNull c])

theorem oneOfClause_eq (c : Column) (values : List Scalar) :
    oneOfClause c values = junctionClause .or (oneOfTests c values) := by
  rcases h : oneOfTests c values with _ | ⟨t, _ | ⟨u, rest⟩⟩ <;>
    · unfold oneOfTests at h
      unfold oneOfClause
      dsimp only
      rw [h]
      rfl

/-- What an operand stands for is a column or a value of a sort. -/
inductive Sql.Term.In (C : Column → Prop) (V : Value → Prop) : Term → Prop
  | column {c} : C c → Term.In C V (.column c)
  | value {v} : V v → Term.In C V (.value v)

section

open Sql.Clause

variable {C : Column → Prop} {V : Value → Prop} {S : Column × String → Prop} {c : Column}

theorem equalClause_madeOf {t : Term} (hc : C c) (ht : t.In C V) :
    MadeOf (Guarded.On C V S) (equalClause c t) := by
  cases ht with
  | column hd => exact .base (.same hc hd)
  | @value v hv =>
    unfold equalClause
    split
    · rename_i h; cases h
    · exact .base (.isNull hc)
    · exact .base (.test (.equalsBool _) hc (by simp [testBound]) nofun)
    · rename_i h _ hv'
      cases hv'
      refine .base (.test (.equals _) hc ?_ nofun)
      simp [testBound, Value.isNull_of_ne h, hv]

theorem orderClause_madeOf (op : OrderOp) {t : Term} (hc : C c) (ht : t.In C V) :
    MadeOf (Guarded.On C V S) (orderClause op c t) := by
  unfold orderClause
  cases ht with
  | column hd => exact .base (.order op hc hd)
  | @value v hv =>
    split
    · exact .truth false
    · rename_i h hv'
      cases hv'
      refine .base (.test (.order op _) hc ?_ nofun)
      simp [testBound, Value.isNull_of_ne h, hv]
    · rename_i h; cases h

theorem compareClause_madeOf (op : CompareOp) {t : Term} (hc : C c) (ht : t.In C V) :
    MadeOf (Guarded.On C V S) (compareClause op c t) := by
  cases op with
  | eq => exact equalClause_madeOf hc ht
  | neq => exact .negate (equalClause_madeOf hc ht)
  | gt => exact orderClause_madeOf .gt hc ht
  | lt => exact orderClause_madeOf .lt hc ht
  | gte => exact orderClause_madeOf .gte hc ht
  | lte => exact orderClause_madeOf .lte hc ht

/-- The clauses of a junction as one are made of what they are made of. -/
theorem junctionClause_madeOf {P : Clause → Prop} (kind : Junction) {cs : List Clause}
    (h : ∀ c ∈ cs, MadeOf P c) : MadeOf P (junctionClause kind cs) := by
  unfold junctionClause
  split
  · exact .truth true
  · exact .truth false
  · exact h _ (by simp)
  · exact .conj h
  · exact .disj h

theorem oneOfTests_madeOf {values : List Scalar} (hc : C c) (hv : ∀ s ∈ values, V (.scalar s)) :
    ∀ t ∈ oneOfTests c values, MadeOf (Guarded.On C V S) t := by
  intro t ht
  rw [oneOfTests, List.mem_append] at ht
  rcases ht with ht | ht <;> split at ht <;> simp only [List.not_mem_nil, List.mem_singleton] at ht
  · subst ht
    refine .base (.test (.oneOf _) hc ?_ nofun)
    simp only [testBound, List.mem_map, List.mem_filter]
    rintro _ ⟨s, ⟨hs, hn⟩, rfl⟩
    exact ⟨Value.isNull_of_ne fun e => by cases e; simp at hn, .inr (hv s hs)⟩
  · exact ht ▸ .base (.isNull hc)

theorem presentClause_madeOf {v : Value} (hc : C c) (hv : V v) :
    MadeOf (Guarded.On C V S) (presentClause c v) := by
  unfold presentClause
  split
  · exact .truth false
  · exact equalClause_madeOf hc (.value hv)

/-- Under every strategy a pattern becomes a test of its column; a search is for the pattern with
    its flags in front. -/
theorem patternClause_tests {strategy : RegexStrategy} {pattern : String}
    {flags : List PatternFlag} {t : Clause} (h : patternClause strategy c pattern flags = .ok t) :
    Tests c t ∧ (∃ s, t.testBound = [.str s]) ∧
      ∀ q ∈ t.testSearches, q = (c, Pattern.inlineFlags pattern flags) := by
  unfold patternClause at h
  split at h
  · cases h
    split
    · exact ⟨.like _, ⟨_, rfl⟩, nofun⟩
    · exact ⟨.likeLower _, ⟨_, rfl⟩, nofun⟩
  · split at h
    · cases h
    · cases h
      exact ⟨.regexp _, ⟨_, rfl⟩, by simp [testSearches]⟩

end

/-- What an operand of a node stands for is the column of a path of the node, or one of its
    constants. -/
theorem termOf_in {config : Config} {d : Declarations} {actor : Value} {opened : List String}
    {e : Expr F} {o : Operand} {t : Term} (hp : ∀ p ∈ o.path?, p ∈ e.nodePaths)
    (hk : ∀ v ∈ o.constant?, v ∈ e.constants config actor) (h : termOf d opened o = .ok t) :
    t.In (fun column => ∃ p ∈ e.nodePaths, columnOf d opened p = .ok column)
      (· ∈ e.constants config actor) := by
  rcases termOf_eq_ok h with ⟨p, c, rfl, hc, rfl⟩ | ⟨v, hv, rfl⟩
  · exact .column ⟨p, hp p rfl, hc⟩
  · exact .value (hk v hv)

/-- A node searches a column for a pattern, with its flags in front. -/
def Expr.Searches (d : Declarations) (opened : List String) (e : Expr F) (q : Column × String) :
    Prop :=
  ∃ path pattern flags, e = .matches path pattern flags ∧ columnOf d opened path = .ok q.1 ∧
    q.2 = Pattern.inlineFlags pattern flags

/-- **A leaf is compiled to guarded tests**, on the columns of its paths and with its
    constants and its pattern. -/
theorem leafClause_madeOf {config : Config} {d : Declarations} {actor : Value}
    {opened : List String} {e : Expr F} {c : Clause} (he : e.isLeaf = true)
    (h : leafClause config d actor opened e = .ok c) :
    Clause.MadeOf (Clause.Guarded.On
      (fun column => ∃ p ∈ e.nodePaths, columnOf d opened p = .ok column)
      (· ∈ e.constants config actor) (e.Searches d opened)) c := by
  cases e with
  | comparison op left right =>
    obtain ⟨column, hc, h⟩ := Result.bind_eq_ok.1 h
    obtain ⟨t, ht, h⟩ := Result.bind_eq_ok.1 h
    cases h
    exact compareClause_madeOf op ⟨left, by simp [Expr.nodePaths], hc⟩
      (termOf_in (by simp +contextual [Expr.nodePaths]) (by simp +contextual [Expr.constants]) ht)
  | inArray path values =>
    obtain ⟨column, hc, h⟩ := Result.bind_eq_ok.1 h
    cases h
    rw [oneOfClause_eq]
    exact junctionClause_madeOf .or (oneOfTests_madeOf ⟨path, by simp [Expr.nodePaths], hc⟩
      fun s hs => by simp [Expr.constants, hs])
  | nullCheck test path =>
    obtain ⟨column, hc, h⟩ := Result.bind_eq_ok.1 h
    have hc' : ∃ p ∈ (Expr.nullCheck test path : Expr F).nodePaths,
        columnOf d opened p = .ok column := ⟨path, by simp [Expr.nodePaths], hc⟩
    cases test <;> cases h
    · exact .base (.isNull hc')
    · exact .base (.isNotNull hc')
  | textMatch test path text =>
    obtain ⟨column, hc, h⟩ := Result.bind_eq_ok.1 h
    cases h
    exact .base (.test (.affix test text) ⟨path, by simp [Expr.nodePaths], hc⟩
      (by simp [Clause.testBound, Value.isNull]) (List.forall_mem_nil _))
  | between path min max =>
    obtain ⟨column, hc, h⟩ := Result.bind_eq_ok.1 h
    obtain ⟨low, hl, h⟩ := Result.bind_eq_ok.1 h
    obtain ⟨high, hh, h⟩ := Result.bind_eq_ok.1 h
    cases h
    have hc' : ∃ p ∈ (Expr.between path min max : Expr F).nodePaths,
        columnOf d opened p = .ok column := ⟨path, by simp [Expr.nodePaths], hc⟩
    refine .conj fun t ht => ?_
    simp only [List.mem_cons, List.not_mem_nil, or_false] at ht
    rcases ht with rfl | rfl
    · exact orderClause_madeOf .gte hc' (termOf_in (by simp +contextual [Expr.nodePaths])
        (by simp +contextual [Expr.constants]) hl)
    · exact orderClause_madeOf .lte hc' (termOf_in (by simp +contextual [Expr.nodePaths])
        (by simp +contextual [Expr.constants]) hh)
  | «matches» path pattern flags =>
    obtain ⟨column, hc, h⟩ := Result.bind_eq_ok.1 h
    obtain ⟨t, ht, h⟩ := Result.bind_eq_ok.1 h
    cases h
    obtain ⟨ht, ⟨s, hs⟩, hq⟩ := patternClause_tests ht
    refine .base (.test ht ⟨path, by simp [Expr.nodePaths], hc⟩ (by simp [hs, Value.isNull])
      fun q hm => ⟨path, pattern, flags, rfl, ?_⟩)
    rw [hq q hm]
    exact ⟨hc, rfl⟩
  | tenantScoped path =>
    obtain ⟨column, hc, h⟩ := Result.bind_eq_ok.1 h
    obtain ⟨v, hv, h⟩ := Result.bind_eq_ok.1 h
    cases h
    exact presentClause_madeOf ⟨path, by simp [Expr.nodePaths], hc⟩
      (by simp [Expr.constants, hv, Except.toOption])
  | belongsToTenant a path =>
    obtain ⟨column, hc, h⟩ := Result.bind_eq_ok.1 h
    cases h
    exact presentClause_madeOf ⟨path, by simp [Expr.nodePaths], hc⟩ (by simp [Expr.constants])
  | _ => cases he

section

variable {config : Config} {d : Declarations} {actor : Value} {opened : List String} {e : Expr F}
  {c : Clause}

/-- The clause of a leaf has no inner selections. -/
theorem leafClause_selections (he : e.isLeaf = true)
    (h : leafClause config d actor opened e = .ok c) (outer : Option (List String)) :
    c.selections outer = [] := by
  refine List.eq_nil_iff_forall_not_mem.2 fun s hs => ?_
  obtain ⟨t, ht, hs⟩ := (leafClause_madeOf he h).mem (Clause.joined_selections outer) hs
  rw [ht.guarded.selections] at hs
  cases hs

/-- The columns in the clause of a leaf are those of its paths. -/
theorem leafClause_columns (he : e.isLeaf = true)
    (h : leafClause config d actor opened e = .ok c) :
    ∀ column ∈ c.columns, ∃ p ∈ e.nodePaths, columnOf d opened p = .ok column := by
  intro column hc
  obtain ⟨t, ht, hc⟩ := (leafClause_madeOf he h).mem Clause.joined_columns hc
  exact ht.columns column hc

/-- The values in the clause of a leaf are texts and its constants, and none of them is null. -/
theorem leafClause_bound (he : e.isLeaf = true)
    (h : leafClause config d actor opened e = .ok c) :
    ∀ v ∈ c.bound, v.isNull = false ∧ ((∃ s, v = .str s) ∨ v ∈ e.constants config actor) := by
  intro v hv
  obtain ⟨t, ht, hv⟩ := (leafClause_madeOf he h).mem Clause.joined_bound hv
  exact ht.bound v hv

/-- The searches in the clause of a leaf are for its pattern. -/
theorem leafClause_searches (he : e.isLeaf = true)
    (h : leafClause config d actor opened e = .ok c) : ∀ q ∈ c.searches, e.Searches d opened q := by
  intro q hq
  obtain ⟨t, ht, hq⟩ := (leafClause_madeOf he h).mem Clause.joined_searches hq
  exact ht.searches q hq

end

/-- A leaf that is compiled looks up all its paths. -/
theorem leafClause_columnOf {config : Config} {d : Declarations} {actor : Value}
    {opened : List String} {e : Expr F} {c : Clause}
    (h : leafClause config d actor opened e = .ok c) :
    ∀ p ∈ e.nodePaths, ∃ column, columnOf d opened p = .ok column := by
  have hterm : ∀ {o : Operand} {t}, termOf d opened o = .ok t →
      ∀ p ∈ o.path?, ∃ column, columnOf d opened p = .ok column := by
    intro o t ht p hp
    rcases termOf_eq_ok ht with ⟨q, column, rfl, hc, -⟩ | ⟨v, hv, -⟩
    · cases hp; exact ⟨column, hc⟩
    · cases o <;> simp_all [Operand.path?, Operand.constant?]
  cases e with
  | comparison op left right =>
    obtain ⟨column, hc, h⟩ := Result.bind_eq_ok.1 h
    obtain ⟨t, ht, -⟩ := Result.bind_eq_ok.1 h
    simp only [Expr.nodePaths, List.mem_cons, Option.mem_toList]
    rintro p (rfl | hp)
    · exact ⟨column, hc⟩
    · exact hterm ht p hp
  | between path min max =>
    obtain ⟨column, hc, h⟩ := Result.bind_eq_ok.1 h
    obtain ⟨low, hl, h⟩ := Result.bind_eq_ok.1 h
    obtain ⟨high, hh, -⟩ := Result.bind_eq_ok.1 h
    simp only [Expr.nodePaths, List.mem_cons, List.mem_append, Option.mem_toList]
    rintro p (rfl | hp | hp)
    · exact ⟨column, hc⟩
    · exact hterm hl p hp
    · exact hterm hh p hp
  | inArray path _ | nullCheck _ path | textMatch _ path _ | «matches» path _ _
  | tenantScoped path | belongsToTenant _ path =>
    obtain ⟨column, hc, -⟩ := Result.bind_eq_ok.1 h
    simp only [Expr.nodePaths, List.mem_singleton, forall_eq]
    exact ⟨column, hc⟩
  | _ => simp [Expr.nodePaths]

end Clearance
