/-
  Columns that are tested against constants of the other type.

  For the evaluator a text and a number are unequal and neither comes first.  A database makes the
  constant fit the column before it compares: against integers a text counts as the number that
  it is the numeral of, and comes behind all numbers if it is none; against texts an integer
  counts as its digits.  And `LIKE` looks at the digits of an integer.

  * `Expr.Opposes`: a leaf tests a column against constants of the other type;
  * `ColumnType.meets` is a comparison with what a column makes of a constant, and `Expr.accepts`
    what a leaf comes to in a database;
  * `ColumnType.meets_of_numeral`, `meets_of_not_numeral` and `meets_digits` say how an integer and
    a text compare;
  * `Expr.Opposes.evaluate` and `Expr.Opposes.selects` say what both sides make of such a leaf;
  * `Rule.select_mismatched`: which rows a filter selects, and when all of them are allowed.
-/
import Clearance.Proofs.Agreement.Faults
import Clearance.Proofs.Agreement.Rule

namespace Clearance

open Sql

variable {F : Type} {config : Config} {d : Declarations} {actor : Value} {main : String}
  {owner : String → String} {db : Database} {t : ColumnType}

/-! ## Types -/

/-- The data that are stored in a column of integers or of texts. -/
inductive Sql.ColumnType.Stores : ColumnType → Datum → Prop
  | null {type} : Stores type .null
  | integer (i) : Stores .int (.integer i)
  | text (s) : Stores .str (.text s)

/-- The values of the other type: texts for a column of integers, and integers for one of
    texts. -/
inductive Sql.ColumnType.Opposes : ColumnType → Value → Prop
  | text (s) : Opposes .int (.str s)
  | integer (i) : Opposes .str (.int i)

/-- A leaf tests a column against constants of the other type. -/
inductive Expr.Opposes (t : ColumnType) (p : PathRef) : Expr F → Prop
  | comparison {op right v} : right.constant? = some v → t.Opposes v →
      Opposes t p (.comparison op p right)
  | inArray {values} : (∀ s ∈ values, t.Opposes (.scalar s)) → Opposes t p (.inArray p values)
  | between {min max v w} : min.constant? = some v → max.constant? = some w → t.Opposes v →
      t.Opposes w → Opposes t p (.between p min max)
  | textMatch (test text) : t = .int → Opposes t p (.textMatch test p text)

/-- A path of the subject stands for a column of the main table, with data of a type in it. -/
structure Declarations.Stores (d : Declarations) (main : String) (owner : String → String)
    (db : Database) (t : ColumnType) (p : PathRef) (column : Column) : Prop where
  subject : p.isScoped = false
  isMain : p.table = main
  declared : ∃ h, d.Declares p h ∧ h.column = column
  owned : column.table = some (owner main)
  type : column.type = some t
  data : ∀ row ∈ db.rows (owner main), t.Stores (cell row column)

namespace Expr.Opposes

variable {p : PathRef} {e : Expr F}

theorem isLeaf (h : e.Opposes t p) : e.isLeaf = true := by
  cases h <;> rfl

theorem constant_path {o : Operand} {v : Value} (h : o.constant? = some v) : o.path? = none := by
  cases o <;> first | rfl | cases h

/-- The clause of the leaf has no searches. -/
theorem searches_eq {opened : List String} {c : Clause} (h : e.Opposes t p)
    (hc : leafClause config d actor opened e = .ok c) : c.searches = [] := by
  refine List.eq_nil_iff_forall_not_mem.2 fun q hq => ?_
  obtain ⟨path, pattern, flags, rfl, -⟩ := leafClause_searches h.isLeaf hc q hq
  cases h

/-- The column is the only one that the leaf refers to. -/
theorem nodePaths_eq (h : e.Opposes t p) : e.nodePaths = [p] := by
  cases h with
  | comparison hv _ => simp [nodePaths, constant_path hv]
  | between hv hw _ _ => simp [nodePaths, constant_path hv, constant_path hw]
  | inArray | textMatch => rfl

end Expr.Opposes

/-! ## Comparisons -/

namespace Sql

/-- Whether a datum compares with a constant as asked, once a column of a type has made the
    constant fit; null is unequal to every constant and not ordered. -/
def ColumnType.meets (t : ColumnType) (op : CompareOp) (x : Datum) (v : Value) : Bool :=
  (x.compare? ((Datum.ofValueOrNull v).stored t)).any op.admits || (op == .neq && x == .null)

/-- A constant is made to fit as if it were stored. -/
theorem Datum.fit_constant (t : ColumnType) (x y : Datum) :
    Datum.fit (some t) none x y = (x, y.stored t) := by
  cases t <;> rfl

theorem Datum.compare?_null_left (y : Datum) : Datum.null.compare? y = none := by
  cases y <;> rfl

theorem orderOf_constant {frames : List Frame} {c : Column} (hc : c.type = some t) (v : Value) :
    orderOf frames c (.value v) =
      (readColumn frames c).compare? ((Datum.ofValueOrNull v).stored t) := by
  show (Datum.fit c.type none _ _).1.compare? (Datum.fit c.type none _ _).2 = _
  rw [hc, Datum.fit_constant]

@[simp] theorem ColumnType.meets_null (t : ColumnType) (op : CompareOp) (v : Value) :
    t.meets op .null v = (op == .neq) := by
  rw [ColumnType.meets, Datum.compare?_null_left]
  cases op <;> rfl

theorem ColumnType.meets_of_compare {x : Datum} {v : Value} {o : Ordering}
    (h : x.compare? ((Datum.ofValueOrNull v).stored t) = some o) (op : CompareOp) :
    t.meets op x v = op.admits o := by
  have hx : (x == Datum.null) = false := by
    rw [beq_eq_false_iff_ne]
    rintro rfl
    rw [Datum.compare?_null_left] at h
    cases h
  rw [ColumnType.meets, h, hx, Bool.and_false, Bool.or_false]
  rfl

/-- **The numeral of an integer** is compared as this integer. -/
theorem ColumnType.meets_of_numeral {s : String} {n : Int}
    (hs : Datum.numberOfText? s = some (.integer n)) (op : CompareOp) (i : Int) :
    ColumnType.int.meets op (.integer i) (.str s) =
      op.admits ((Finite.ofInt i).compare (.ofInt n)) := by
  refine meets_of_compare ?_ op
  show (Datum.integer i).compare? ((Datum.numberOfText? s).getD (.text s)) = _
  rw [hs]
  rfl

/-- **A text that is no numeral** comes behind all integers. -/
theorem ColumnType.meets_of_not_numeral {s : String} (hs : Datum.numberOfText? s = none)
    (op : CompareOp) (i : Int) : ColumnType.int.meets op (.integer i) (.str s) = op.admits .lt := by
  refine meets_of_compare ?_ op
  show (Datum.integer i).compare? ((Datum.numberOfText? s).getD (.text s)) = _
  rw [hs]
  rfl

/-- **An integer among texts** is compared as its digits. -/
theorem ColumnType.meets_digits {i : Int} (hi : Datum.hasWordSize i = true) (op : CompareOp)
    (s : String) : ColumnType.str.meets op (.text s) (.int i) =
      op.admits (compareOfLessAndEq s (toString i)) := by
  refine meets_of_compare ?_ op
  rw [Datum.ofValueOrNull_int hi]
  rfl

-- so ten comes before nine
example : ColumnType.str.meets .lt (.text "10") (.int 9) = true :=
  (ColumnType.meets_digits rfl .lt "10").trans rfl

section

variable {frames : List Frame} {c : Column} {v : Value}

/-- An order is admitted where the column meets the constant. -/
theorem orderOf_meets (hc : c.type = some t) {op : CompareOp} (hop : op ≠ .neq) (v : Value) :
    ((orderOf frames c (.value v)).map op.admits == some true) =
      t.meets op (readColumn frames c) v := by
  have hne : (op == CompareOp.neq) = false := by simpa using hop
  rw [orderOf_constant hc, ColumnType.meets, hne, Bool.false_and, Bool.or_false]
  cases (readColumn frames c).compare? ((Datum.ofValueOrNull v).stored t) with
  | none => rfl
  | some o => cases h : op.admits o <;> simp [h]

/-- A guarded test of an order selects what meets the constant. -/
theorem guarded_meets [CharacterNames] (hc : c.type = some t) {op : CompareOp} (hop : op ≠ .neq)
    {test : Clause} (ht : test.truthValue db frames = (orderOf frames c (.value v)).map op.admits) :
    ((Clause.conj [.isNotNull c, test]).truthValue db frames == some true) =
      t.meets op (readColumn frames c) v := by
  rw [Clause.truthValue_guarded]
  split
  · rename_i h
    rw [h, ColumnType.meets_null]
    simpa using hop
  · rw [ht, orderOf_meets hc hop]

/-- **A comparison with a constant selects** what meets the constant. -/
theorem compareClause_meets [CharacterNames] (hc : c.type = some t) (hv : t.Opposes v)
    (op : CompareOp) :
    ((compareClause op c (.value v)).truthValue db frames == some true) =
      t.meets op (readColumn frames c) v := by
  have heq : equalClause c (.value v) = Clause.conj [.isNotNull c, .equals c v] := by
    cases hv <;> rfl
  have horder : ∀ order, orderClause order c (.value v) =
      Clause.conj [.isNotNull c, .order order c (.value v)] := by
    intro order
    cases hv <;> rfl
  cases op with
  | eq => rw [compareClause, heq]; exact guarded_meets hc (by decide) rfl
  | gt => rw [compareClause, horder]; exact guarded_meets hc (by decide) rfl
  | lt => rw [compareClause, horder]; exact guarded_meets hc (by decide) rfl
  | gte => rw [compareClause, horder]; exact guarded_meets hc (by decide) rfl
  | lte => rw [compareClause, horder]; exact guarded_meets hc (by decide) rfl
  | neq =>
    rw [compareClause, Clause.truthValue_negate, heq, Clause.truthValue_guarded]
    split
    · rename_i h
      rw [h, ColumnType.meets_null]
      rfl
    · rename_i h
      show (not3 ((orderOf frames c (.value v)).map (· == .eq)) == some true) = _
      rw [orderOf_constant hc, ColumnType.meets]
      cases (readColumn frames c).compare? ((Datum.ofValueOrNull v).stored t) with
      | none => simpa [not3] using h
      | some o => cases o <;> simp [not3, CompareOp.admits, h]

/-- Membership selects what equals one of the constants. -/
theorem isOneOf_meets (hc : c.type = some t) (values : List Scalar) :
    (isOneOf frames c values == some true) =
      values.any fun s => t.meets .eq (readColumn frames c) (.scalar s) := by
  induction values with
  | nil => rfl
  | cons s rest ih =>
    have hop : CompareOp.eq ≠ .neq := by decide
    have hs : ((orderOf frames c (.value (.scalar s))).map (· == .eq) == some true) =
        t.meets .eq (readColumn frames c) (.scalar s) := orderOf_meets hc hop (.scalar s)
    rw [isOneOf, or3_beq_true, ih, hs, List.any_cons]

theorem oneOfClause_meets [CharacterNames] (hc : c.type = some t) {values : List Scalar}
    (hv : ∀ s ∈ values, t.Opposes (.scalar s)) :
    ((oneOfClause c values).truthValue db frames == some true) =
      values.any fun s => t.meets .eq (readColumn frames c) (.scalar s) := by
  have hpresent : values.filter (· != .null) = values := by
    rw [List.filter_eq_self]
    intro s hs
    cases hv s hs <;> rfl
  rcases values with _ | ⟨s, rest⟩
  · rfl
  · have he : oneOfClause c (s :: rest) = Clause.conj [.isNotNull c, .oneOf c (s :: rest)] := by
      simp [oneOfClause_eq, oneOfTests, hpresent, junctionClause]
    rw [he, Clause.truthValue_guarded]
    split
    · rename_i h
      rw [h]
      simp
    · exact isOneOf_meets hc (s :: rest)

end

end Sql

/-! ## Leaves -/

/-- What a leaf over a column of a type comes to in a database, by the datum in the column. -/
def Expr.accepts (t : ColumnType) (x : Datum) : Expr F → Bool
  | .comparison op _ right => right.constant?.any (t.meets op x)
  | .inArray _ values => values.any fun s => t.meets .eq x (.scalar s)
  | .between _ min max => min.constant?.any (t.meets .gte x) && max.constant?.any (t.meets .lte x)
  | .textMatch test _ text =>
    Datum.isLike '/' (some (affixPattern test text)) x.likeText? == some true
  | _ => false

/-- Whether a leaf tests that a column is unequal to something. -/
def Expr.isInequality : Expr F → Bool
  | .comparison .neq _ _ => true
  | _ => false

/-- An operand that is a constant stands for it. -/
theorem termOf_constant {opened : List String} {o : Operand} {v : Value}
    (h : o.constant? = some v) : termOf d opened o = .ok (.value v) := by
  cases o <;> cases h <;> rfl

theorem resolveOperand_constant {resources : Value} {opened : List String} {o : Operand}
    {v : Value} (h : o.constant? = some v) : resolveOperand resources opened o = .ok v := by
  cases o <;> cases h <;> rfl

/-- A value and a constant of the other type are unequal, and neither comes first. -/
theorem compareValues_opposes {x : Datum} {v : Value} (hx : t.Stores x) (hv : t.Opposes v)
    (op : CompareOp) : compareValues op (x.value (some t)) v = .ok (op == .neq) := by
  cases hx <;> cases hv <;> cases op <;> rfl

theorem isIn_opposes {x : Datum} (hx : t.Stores x) {values : List Scalar}
    (hv : ∀ s ∈ values, t.Opposes (.scalar s)) : (x.value (some t)).isIn values = .ok false := by
  induction values with
  | nil => rfl
  | cons s rest ih =>
    have hs := hv s (by simp)
    have hi : (x.value (some t)).identical (.scalar s) = false := by
      cases hx <;> cases hs <;> rfl
    have he : (x.value (some t)).equal (.scalar s) = .ok false := compareValues_opposes hx hs .eq
    rw [Value.isIn, hi, he]
    exact ih fun s hs => hv s (List.mem_cons_of_mem _ hs)

namespace Expr.Opposes

variable {p : PathRef} {e : Expr F} {opened : List String}

/-- **The evaluator** decides such a leaf by its sort alone: only inequality holds. -/
theorem evaluate [CharacterNames] (h : e.Opposes t p) {resources : Value} {x : Datum}
    (hx : t.Stores x) (hp : resolvePath resources opened p = .ok (x.value (some t))) :
    evaluateLeaf config actor resources opened e = .ok e.isInequality := by
  cases h with
  | @comparison op right v hv ho =>
    rw [evaluateLeaf, hp, resolveOperand_constant hv]
    show Result.ofComparison (compareValues op (x.value (some t)) v) = _
    rw [compareValues_opposes hx ho]
    cases op <;> rfl
  | @inArray values hv =>
    rw [evaluateLeaf, hp]
    show (if values.isEmpty then _ else Result.ofComparison ((x.value (some t)).isIn values)) = _
    rw [isIn_opposes hx hv]
    exact ite_self _
  | @between min max v w hv hw hov how =>
    rw [evaluateLeaf, hp, resolveOperand_constant hv, resolveOperand_constant hw]
    have hlow : ordered .gte (x.value (some t)) v = .ok false := compareValues_opposes hx hov .gte
    show Result.ofComparison (isBetween (x.value (some t)) v w) = _
    rw [isBetween, hlow]
    rfl
  | textMatch test text ht =>
    subst ht
    rw [evaluateLeaf, hp]
    cases hx <;> rfl

/-- **The clause** of such a leaf selects what the leaf accepts. -/
theorem selects [CharacterNames] (h : e.Opposes t p) {frames : List Frame} {column : Column}
    {c : Clause} (hp : columnOf d opened p = .ok column) (ht : column.type = some t)
    (hc : leafClause config d actor opened e = .ok c) :
    (c.truthValue db frames == some true) = e.accepts t (readColumn frames column) := by
  cases h with
  | @comparison op right v hv ho =>
    rw [leafClause, hp, termOf_constant hv] at hc
    cases hc
    rw [compareClause_meets ht ho, accepts, hv]
    rfl
  | inArray hv =>
    rw [leafClause, hp] at hc
    cases hc
    exact oneOfClause_meets ht hv
  | @between min max v w hv hw hov how =>
    rw [leafClause, hp, termOf_constant hv, termOf_constant hw] at hc
    cases hc
    have hlow : ((orderClause .gte column (.value v)).truthValue db frames == some true) =
        t.meets .gte (readColumn frames column) v := compareClause_meets ht hov .gte
    have hhigh : ((orderClause .lte column (.value w)).truthValue db frames == some true) =
        t.meets .lte (readColumn frames column) w := compareClause_meets ht how .lte
    rw [Clause.truthValue_conj, Clause.allTrue, Clause.allTrue, Clause.allTrue, and3_true_right,
      and3_beq_true, hlow, hhigh, accepts, hv, hw]
    rfl
  | textMatch test text _ =>
    rw [leafClause, hp] at hc
    cases hc
    rw [Clause.truthValue_guarded, accepts]
    split
    · rename_i h
      rw [h]
      rfl
    · rfl

end Expr.Opposes

/-! ## Rules -/

namespace Declarations.Stores

variable {p : PathRef} {column : Column}

theorem notScoped (h : d.Stores main owner db t p column) {P : Prop} :
    p.isScoped = true → P := fun hs => absurd (h.subject.symm.trans hs) Bool.false_ne_true

theorem columnOf_eq (h : d.Stores main owner db t p column) (opened : List String) :
    columnOf d opened p = .ok column :=
  columnOf_eq_ok.2 ⟨h.notScoped, h.declared⟩

/-- The path is read from the row of the main table that is looked at. -/
theorem resolvePath_eq (h : d.Stores main owner db t p column) (opened : List String) (row : Row) :
    resolvePath (d.resources main owner db row) opened p =
      .ok ((cell row column).value (some t)) := by
  obtain ⟨handle, ⟨columns, hf, hl⟩, rfl⟩ := h.declared
  have hrecord : (d.fields main owner db row).lookup p.table = some (columns.record row) := by
    rw [h.subject, h.isMain] at hf
    rw [Declarations.fields, h.isMain, List.lookup_cons_self, Scene.record_eq hf]
  have hscope : checkScope p opened = .ok () := checkScope_eq_ok.2 h.notScoped
  rw [resolvePath, hscope, ← h.type]
  exact congrArg Except.ok (readPath_of_field hrecord hl)

/-- The clause of a leaf on the column names no other table. -/
theorem tables_eq (h : d.Stores main owner db t p column) {e : Expr F} {c : Clause}
    (he : e.isLeaf = true) (hn : e.nodePaths = [p])
    (hc : leafClause config d actor [] e = .ok c) : ∀ table ∈ c.tables, table = owner main := by
  intro table ht
  obtain ⟨q, hq, ht⟩ := Clause.mem_tables.1 ht
  obtain ⟨p', hp, hq⟩ := leafClause_columns he hc q hq
  rw [hn, List.mem_singleton] at hp
  rw [hp, h.columnOf_eq, Except.ok.injEq] at hq
  rw [← hq, h.owned] at ht
  exact (Option.some.inj ht).symm

/-- A selection by the clause of a leaf on the column looks at the rows of the main table one by
    one, if its values can be bound. -/
theorem run_leaf [CharacterNames] (h : d.Stores main owner db t p column) {e : Expr F} {c : Clause}
    (he : e.isLeaf = true) (hn : e.nodePaths = [p])
    (hc : leafClause config d actor [] e = .ok c) {id : Column} (hid : id.table = some (owner main))
    (hb : ∀ v ∈ c.bound, v.Bindable) (hq : c.Searchable db []) : (Selection.mk [id] c).run db =
      .ok (((db.rows (owner main)).filter fun row =>
        c.truthValue db [[(owner main, row)]] == some true).map fun row => [cell row id]) := by
  have hsel : ∀ q ∈ c.selections (some [owner main]), q.2 ≠ [] := by
    rw [leafClause_selections he hc]
    exact fun _ hq => nomatch hq
  exact Selection.run_own hid (h.tables_eq he hn hc) hsel hb hq

end Declarations.Stores

/-- A rule without related nodes that can be compiled is decided as its expansion is. -/
theorem Rule.evaluate_unrelated [CharacterNames] {call : Meaning F} {r : Rule F} {e : Expr Empty}
    {c : Clause} (h : (r.compile config call d actor).result = .ok c)
    (he : r.expansion config call actor = some e) (hn : e.relatedTables = []) (resources : Value) :
    (r.evaluate config call actor resources).result = e.decision config actor resources [] := by
  have hadm := (Rule.compile_charges h).2
  have hrun := (Rule.evaluate_within he hn resources {} (by simpa using hadm)).1
  rw [Run.result_eq, hrun]

/-- A rule that stands for a leaf is decided as the leaf is. -/
theorem Rule.evaluate_leaf [CharacterNames] {call : Meaning F} {r : Rule F} {e : Expr Empty}
    {c : Clause} (h : (r.compile config call d actor).result = .ok c)
    (he : r.expansion config call actor = some e) (hl : e.isLeaf = true) (resources : Value) :
    (r.evaluate config call actor resources).result = evaluateLeaf config actor resources [] e :=
  (Rule.evaluate_unrelated h he (Expr.relatedTables_leaf hl) resources).trans
    (Expr.decision_leaf hl)

section

variable {p : PathRef} {column : Column} {c : Clause}

/-- A selection by the clause of such a leaf gives the rows that the leaf accepts, if its values
    can be bound. -/
theorem Expr.Opposes.run_eq [CharacterNames] {e : Expr F} (ho : e.Opposes t p)
    (hs : d.Stores main owner db t p column) (hc : leafClause config d actor [] e = .ok c)
    {id : Column} (hid : id.table = some (owner main)) (hb : ∀ v ∈ c.bound, v.Bindable) :
    (Selection.mk [id] c).run db =
      .ok (((db.rows (owner main)).filter fun row => e.accepts t (cell row column)).map
        fun row => [cell row id]) := by
  rw [hs.run_leaf ho.isLeaf ho.nodePaths_eq hc hid hb (.of_nil (ho.searches_eq hc))]
  simp only [ho.selects (hs.columnOf_eq []) hs.type hc, readColumn_of_eq hs.owned]

end

/-- **What a filter of mismatched types selects.**  A rule that stands for a test of a column of
    the main table against constants of the other type is decided by its sort alone: only
    inequality holds.  Its filter selects the rows that the test accepts in a database, where the
    column has made the constants fit; so all rows that it selects are allowed iff there are
    none, inequality apart. -/
theorem Rule.select_mismatched [CharacterNames] (config : Config) (call : Meaning F)
    (d : Declarations) (actor : Value) (main : String) (owner : String → String) (db : Database)
    (r : Rule F) (c : Clause) (h : (r.compile config call d actor).result = .ok c) :
    ∃ e, r.expansion config call actor = some e ∧
      ∀ t p column, e.Opposes t p → d.Stores main owner db t p column →
        (∀ row ∈ db.rows (owner main),
          (r.evaluate config call actor (d.resources main owner db row)).result =
            .ok e.isInequality) ∧
        (∀ id : Column, id.table = some (owner main) →
          (∀ rows, (Selection.mk [id] c).run db = .ok rows →
            rows = ((db.rows (owner main)).filter fun row => e.accepts t (cell row column)).map
              fun row => [cell row id]) ∧
          ((∀ v ∈ e.constants config actor, v.Bindable) →
            ∃ rows, (Selection.mk [id] c).run db = .ok rows)) ∧
        ((∀ row ∈ db.rows (owner main), e.accepts t (cell row column) = true →
          (r.evaluate config call actor (d.resources main owner db row)).result = .ok true) ↔
          e.isInequality = true ∨
            ∀ row ∈ db.rows (owner main), e.accepts t (cell row column) = false) := by
  obtain ⟨e, he, hc⟩ := Rule.expansion_of_compile h
  refine ⟨e, he, fun t p column ho hs => ?_⟩
  rw [Expr.clause_leaf ho.isLeaf] at hc
  have heval : ∀ row ∈ db.rows (owner main),
      (r.evaluate config call actor (d.resources main owner db row)).result =
        .ok e.isInequality := fun row hrow =>
    (Rule.evaluate_leaf h he ho.isLeaf _).trans
      (ho.evaluate (hs.data row hrow) (hs.resolvePath_eq [] row))
  refine ⟨heval, fun id hid => ⟨fun rows hr => ?_, fun hk => ⟨_, ho.run_eq hs hc hid ?_⟩⟩, ?_⟩
  · rw [ho.run_eq hs hc hid (Selection.bindable_of_run hr), Except.ok.injEq] at hr
    exact hr.symm
  · intro v hv
    obtain ⟨-, ⟨s, rfl⟩ | hv⟩ := leafClause_bound ho.isLeaf hc v hv
    · exact ⟨_, rfl⟩
    · exact hk v hv
  · cases hi : e.isInequality with
    | true =>
      rw [hi] at heval
      exact iff_of_true (fun row hrow _ => heval row hrow) (.inl rfl)
    | false =>
      rw [hi] at heval
      refine Iff.trans (forall₂_congr fun row hrow => ?_) (or_iff_right Bool.false_ne_true).symm
      rw [heval row hrow, ← Bool.not_eq_true]
      exact imp_congr_right fun _ => by simp

/-! ## Items by owner -/

/-- The column of the owner of an item. -/
def ownerColumn : Column := ⟨"owner_id", some "items", some .int⟩

/-- The items whose owner compares with a text. -/
def ownerAgainst (op : CompareOp) (text : String) : Rule Empty :=
  .expr (.comparison op ⟨false, "item", "owner_id"⟩ (.scalar (.str text)))

theorem mem_itemRows {row : Row} (h : row ∈ itemRows.rows "items") :
    row = [("id", .integer 1), ("owner_id", .integer 7)] ∨
      row = [("id", .integer 2), ("owner_id", .integer 8)] := by
  simpa [itemRows, Database.rows] using h

theorem itemTables_stores :
    itemTables.Stores "item" itemOwner itemRows .int ⟨false, "item", "owner_id"⟩ ownerColumn where
  subject := rfl
  isMain := rfl
  declared := ⟨_, ⟨_, .subject rfl, rfl⟩, rfl⟩
  owned := rfl
  type := rfl
  data row hrow := by
    rcases mem_itemRows hrow with rfl | rfl
    · exact .integer 7
    · exact .integer 8

section

attribute [local instance] CharacterNames.empty

/-- No owner comes before a name, but all of them are selected. -/
theorem Rule.select_mismatched_of_name : ∃ c,
    ((ownerAgainst .lt "bob").compile {} noFunctions itemTables .null).result = .ok c ∧
    (∀ row ∈ itemRows.rows "items", ((ownerAgainst .lt "bob").evaluate {} noFunctions .null
      (itemTables.resources "item" itemOwner itemRows row)).result = .ok false) ∧
    (Selection.mk [ownerColumn] c).run itemRows = .ok [[.integer 7], [.integer 8]] := by
  refine ⟨_, rfl, ?_⟩
  obtain ⟨e, he, hs⟩ := Rule.select_mismatched {} noFunctions itemTables .null "item"
    itemOwner itemRows (ownerAgainst .lt "bob") _ rfl
  cases he
  obtain ⟨heval, hrun, -⟩ := hs .int _ _ (.comparison rfl (.text "bob")) itemTables_stores
  obtain ⟨hrows, hbind⟩ := hrun ownerColumn rfl
  obtain ⟨rows, hr⟩ := hbind (by simp [Expr.constants, Operand.constant?, Value.Bindable,
    Datum.ofValue, Datum.ofScalar])
  obtain rfl := hrows rows hr
  exact ⟨heval, hr⟩

/-- An item is selected by the numeral of its owner, which the evaluator does not allow. -/
theorem Rule.select_widens_by_numeral : ∃ c,
    ((ownerAgainst .eq "7").compile {} noFunctions itemTables .null).result = .ok c ∧
    (Selection.mk [⟨"id", some "items", some .int⟩] c).run itemRows = .ok [[.integer 1]] ∧
    ∀ row ∈ itemRows.rows "items",
      ((ownerAgainst .eq "7").evaluate {} noFunctions .null
        (itemTables.resources "item" itemOwner itemRows row)).result = .ok false := by
  refine ⟨_, rfl, rfl, fun row hrow => ?_⟩
  rcases mem_itemRows hrow with rfl | rfl <;> rfl

end

end Clearance
