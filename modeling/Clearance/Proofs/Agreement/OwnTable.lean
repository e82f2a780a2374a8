/-
  Related tables that are stored in the SQL table of the main table.

  The selection of a related node names its SQL table once.  Where this is the SQL table of the
  main table, the row of the subject is hidden by the rows that are looked through, and all columns
  in the selection are read from the same one of these.

  * `Expr.holdsFor`: whether the evaluator finds a predicate true of two rows, that of the subject
    and one of the related table;
  * `Expr.decision_shared`: the evaluator counts the rows that go with the subject, and
    `Expr.truthValue_shared`: the selection those that go with themselves;
  * `Expr.Undisturbed`: these are enough or not enough alike, as they are if the predicate does not
    look at the subject (`Expr.undisturbed_of_scoped`), and then the tree comes out as its clause
    does (`Expr.Undisturbed.agrees`);
  * `Rule.select_shared` says so of a rule, and what is selected by a related node alone.
-/
import Clearance.Proofs.Agreement.Footprint
import Clearance.Proofs.Agreement.Rule
import Clearance.Proofs.Filter.TwoValued

namespace Clearance

open Sql

variable {F : Type} {config : Config} {d : Declarations} {actor : Value} {main : String}
  {owner : String → String} {db : Database}

/-! ## Tests on rows at hand -/

section

variable {t : ColumnType} {resources : Value} {opened : List String} {e : Expr F}

/-- Two values that data of one type stand for can be compared. -/
theorem Sql.Shows.compareValues_ok {x y : Datum} {v w : Value} (hx : Shows t x v)
    (hy : Shows t y w) (op : CompareOp) : ∃ b, compareValues op v w = .ok b := by
  have hordered : ∀ (op : CompareOp) (order : OrderOp), (∀ o, op.admits o = order.admits o) →
      ∃ b, ordered op v w = .ok b := fun _ _ h => ⟨_, ordered_agree h hx hy⟩
  cases op with
  | eq => exact ⟨_, hx.equal hy⟩
  | neq => exact ⟨!x.isSame y, by rw [compareValues, hx.equal hy]; rfl⟩
  | gt => exact hordered .gt .gt fun _ => rfl
  | lt => exact hordered .lt .lt fun _ => rfl
  | gte => exact hordered .gte .gte fun _ => rfl
  | lte => exact hordered .lte .lte fun _ => rfl

theorem Sql.Shows.equalPresent_ok {x y : Datum} {v w : Value} (hx : Shows t x v)
    (hy : Shows t y w) : ∃ b, equalPresent v w = .ok b := by
  unfold equalPresent
  split
  · exact ⟨false, rfl⟩
  · exact ⟨_, hx.equal hy⟩

/-- A leaf over one type is decided, whatever rows its columns are read from. -/
theorem Expr.Compares.decides [CharacterNames] (h : e.Compares config d actor owner db t)
    (he : e.isLeaf = true)
    (hr : ∀ p ∈ e.nodePaths, ∃ x v, resolvePath resources opened p = .ok v ∧ Shows t x v)
    {c : Clause} (hc : leafClause config d actor opened e = .ok c) :
    ∃ b, evaluateLeaf config actor resources opened e = .ok b := by
  have hoperand : ∀ {o : Operand}, (∀ p ∈ o.path?, p ∈ e.nodePaths) →
      (∀ v ∈ o.constant?, v ∈ e.constants config actor) →
      ∃ x v, resolveOperand resources opened o = .ok v ∧ Shows t x v := by
    intro o hp hk
    cases o with
    | path p => exact hr p (hp p rfl)
    | actor a => exact ⟨_, _, rfl, (h.constants _ (hk _ rfl)).shows⟩
    | scalar s => exact ⟨_, _, rfl, (h.constants _ (hk _ rfl)).shows⟩
  cases e with
  | comparison op left right =>
    obtain ⟨x, v, hv, hx⟩ := hr left (by simp [nodePaths])
    obtain ⟨y, w, hw, hy⟩ := hoperand (o := right) (by simp +contextual [nodePaths])
      (by simp +contextual [Expr.constants])
    obtain ⟨b, hb⟩ := hx.compareValues_ok hy op
    exact ⟨b, by rw [evaluateLeaf, hv, hw]; exact congrArg Result.ofComparison hb⟩
  | inArray path values =>
    obtain ⟨x, v, hv, hx⟩ := hr path (by simp [nodePaths])
    have hk : ∀ s ∈ values, t.Takes (.scalar s) := fun s hs =>
      h.constants _ (by simpa [Expr.constants] using hs)
    rw [evaluateLeaf, hv]
    split
    · exact ⟨false, rfl⟩
    · exact ⟨_, congrArg Result.ofComparison (isIn_agree hx hk)⟩
  | nullCheck test path =>
    obtain ⟨x, v, hv, -⟩ := hr path (by simp [nodePaths])
    exact ⟨_, by rw [evaluateLeaf, hv]; rfl⟩
  | textMatch test path text =>
    obtain ⟨x, v, hv, -⟩ := hr path (by simp [nodePaths])
    exact ⟨_, by rw [evaluateLeaf, hv]; rfl⟩
  | between path min max =>
    obtain ⟨x, v, hv, hx⟩ := hr path (by simp [nodePaths])
    obtain ⟨y, w, hw, hy⟩ := hoperand (o := min) (by simp +contextual [nodePaths])
      (by simp +contextual [Expr.constants])
    obtain ⟨z, u, hu, hz⟩ := hoperand (o := max) (by simp +contextual [nodePaths])
      (by simp +contextual [Expr.constants])
    rw [evaluateLeaf, hv, hw, hu]
    have hlow : ordered .gte v w = .ok (Datum.ordered .gte x y) :=
      ordered_agree (fun _ => rfl) hx hy
    have hhigh : ordered .lte v u = .ok (Datum.ordered .lte x z) :=
      ordered_agree (fun _ => rfl) hx hz
    show ∃ b, Result.ofComparison (isBetween v w u) = .ok b
    rw [isBetween, hlow, hhigh]
    cases Datum.ordered .gte x y
    · exact ⟨_, rfl⟩
    · exact ⟨_, rfl⟩
  | «matches» path pattern flags => exact absurd rfl (h.noPattern path pattern flags)
  | tenantScoped path =>
    obtain ⟨column, -, hc⟩ := Result.bind_eq_ok.1 hc
    obtain ⟨w, hw, -⟩ := Result.bind_eq_ok.1 hc
    obtain ⟨x, v, hv, hx⟩ := hr path (by simp [nodePaths])
    have hk : t.Takes w := h.constants w (by simp [Expr.constants, hw, Except.toOption])
    obtain ⟨b, hb⟩ := hk.shows.equalPresent_ok hx
    exact ⟨b, by rw [evaluateLeaf, hw, hv]; exact congrArg Result.ofComparison hb⟩
  | belongsToTenant a path =>
    obtain ⟨x, v, hv, hx⟩ := hr path (by simp [nodePaths])
    have hk : t.Takes a.value := h.constants a.value (by simp [Expr.constants])
    obtain ⟨b, hb⟩ := hk.shows.equalPresent_ok hx
    exact ⟨b, by rw [evaluateLeaf, hv]; exact congrArg Result.ofComparison hb⟩
  | _ => cases he

end

/-! ## Predicates without related nodes -/

/-- A tree without related nodes. -/
def Expr.Single (opened : List String) (e : Expr F) : Prop :=
  ∀ n ∈ e.scopedNodes opened, ∀ kind table predicate minCount,
    n.item ≠ .related kind table predicate minCount

namespace Expr

variable {opened : List String} {resources resources' : Value} {frames : List Frame}

theorem Single.mono {e e' : Expr F} {opened' : List String} (h : e.Single opened)
    (hn : ∀ n ∈ e'.scopedNodes opened', n ∈ e.scopedNodes opened) : e'.Single opened' :=
  fun n h' => h n (hn n h')

/-- All nodes of a tree without related nodes are in the place of the tree. -/
theorem Single.around_eq {e : Expr F} (hs : e.Single opened) {n : Nested (Expr F)}
    (hn : n ∈ e.scopedNodes opened) : n.around = opened := by
  obtain ⟨inner, hi, hm⟩ := e.around_of_mem hn
  cases inner with
  | nil => rw [hi, List.append_nil]
  | cons table inner =>
    obtain ⟨m, hm, -, kind, predicate, minCount, he⟩ := hm [] table inner rfl
    exact absurd he (hs m hm kind table predicate minCount)

/-- Without related nodes, a tree comes out as its clause does if its tests do. -/
theorem Single.agrees [CharacterNames] (e : Expr Empty) (hs : e.Single opened)
    (h : ∀ n ∈ e.scopedNodes opened, n.item.isLeaf = true →
      n.item.Agrees config d actor db resources opened frames) :
    e.Agrees config d actor db resources opened frames := by
  induction e using treeInduction with
  | literal value => exact .literal value
  | leaf e he => exact h ⟨opened, e⟩ (self_mem_scopedNodes _ _) he
  | function fn => exact fn.elim
  | related kind table predicate minCount =>
    exact absurd rfl (hs ⟨opened, _⟩ (self_mem_scopedNodes _ _) kind table predicate minCount)
  | not e ih =>
    exact .not (ih (hs.mono fun n hn => mem_scopedNodes_not hn)
      fun n hn => h n (mem_scopedNodes_not hn))
  | junction kind rules ih =>
    exact .junction fun e he => ih e he (hs.mono fun n hn => mem_scopedNodes_junction he hn)
      fun n hn => h n (mem_scopedNodes_junction he hn)

/-- Without related nodes, a tree is decided alike on resources if its tests are. -/
theorem Single.decision_congr [CharacterNames] (e : Expr Empty) (hs : e.Single opened)
    (h : ∀ n ∈ e.scopedNodes opened, n.item.isLeaf = true → ∃ b,
      evaluateLeaf config actor resources opened n.item = .ok b ∧
        evaluateLeaf config actor resources' opened n.item = .ok b) :
    ∃ b, e.decision config actor resources opened = .ok b ∧
      e.decision config actor resources' opened = .ok b := by
  induction e using treeInduction with
  | literal value => exact ⟨value, rfl, rfl⟩
  | leaf e he =>
    rw [decision_leaf he, decision_leaf he]
    exact h ⟨opened, e⟩ (self_mem_scopedNodes _ _) he
  | function fn => exact fn.elim
  | related kind table predicate minCount =>
    exact absurd rfl (hs ⟨opened, _⟩ (self_mem_scopedNodes _ _) kind table predicate minCount)
  | not e ih =>
    obtain ⟨b, hb, hb'⟩ := ih (hs.mono fun n hn => mem_scopedNodes_not hn)
      fun n hn => h n (mem_scopedNodes_not hn)
    refine ⟨!b, ?_, ?_⟩
    · rw [decision, hb]; rfl
    · rw [decision, hb']; rfl
  | junction kind rules ih =>
    let f : Expr Empty → Bool := fun e =>
      (e.decision config actor resources opened).toOption.getD false
    have hf : ∀ e ∈ rules, e.decision config actor resources opened = .ok (f e) ∧
        e.decision config actor resources' opened = .ok (f e) := by
      intro e he
      obtain ⟨b, hb, hb'⟩ := ih e he (hs.mono fun n hn => mem_scopedNodes_junction he hn)
        fun n hn => h n (mem_scopedNodes_junction he hn)
      simp only [f, hb, hb', Except.toOption, Option.getD_some, and_self]
    refine ⟨kind.of f rules, ?_, ?_⟩
    · rw [decision, decisionAll_eq_ok fun e he => (hf e he).1]
    · rw [decision, decisionAll_eq_ok fun e he => (hf e he).2]

/-- The predicate of a related node holds no other, where none lies inside another. -/
theorem Flat.single {kind : RelatedKind} {table : String} {predicate : Expr F} {minCount : Nat}
    (h : (Expr.related kind table predicate minCount).Flat) : predicate.Single [table] := by
  intro n hn kind' table' predicate' minCount' he
  obtain ⟨inner, hi, -⟩ := predicate.around_of_mem hn
  have hnil := h n (mem_scopedNodes_related hn) kind' table' predicate' minCount' he
  rw [hnil] at hi
  cases hi

end Expr

/-! ## Two rows of one SQL table -/

/-- Whether the evaluator finds the predicate of a related node true of a row of the main table and
    a row of the related table. -/
def Expr.holdsFor [CharacterNames] (config : Config) (d : Declarations) (actor : Value)
    (main : String) (owner : String → String) (db : Database) (table : String)
    (predicate : Expr Empty) (row inner : Row) : Bool :=
  (predicate.decision config actor
    ((Scene.mk row [(table, inner)]).resources d main owner db) [table]).toOption.getD false

section

variable {table : String} {kind : RelatedKind} {predicate : Expr Empty} {minCount : Nat}

/-- A path in the predicate of a related node is resolved to what its column holds, in the row of
    the subject or in the one of the related table. -/
theorem Declarations.Binds.resolvePath_pair {e : Expr Empty} {around : List String}
    (ha : d.Binds main owner [] (.related kind table predicate minCount))
    (hsame : owner table = owner main) {t : ColumnType} (he : e.Compares config d actor owner db t)
    (hn : ⟨around, e⟩ ∈ predicate.scopedNodes [table]) {row inner : Row}
    (hrow : row ∈ db.rows (owner main)) (hinner : inner ∈ db.rows (owner main))
    {p : PathRef} (hp : p ∈ e.nodePaths) {c : Column} (hc : columnOf d [table] p = .ok c) :
    ∃ v, resolvePath ((Scene.mk row [(table, inner)]).resources d main owner db) [table] p = .ok v ∧
      c.type = some t ∧ c.table = some (owner main) ∧
      Shows t (cell (if p.isScoped then inner else row) c) v ∧
      ∀ test text, e = .textMatch test p text → ∀ r ∈ db.rows (owner main), ∀ s,
        cell r c = .text s → Text.ToldApart text s := by
  obtain ⟨hs, handle, hd, rfl⟩ := columnOf_eq_ok.1 hc
  obtain ⟨ht, hh⟩ := he.columns p hp handle hd
  have hapart := fun test text htext => he.apart test p text htext handle hd
  obtain ⟨columns, hf, hl⟩ := hd
  obtain ⟨hne, hb⟩ := ha.related ⟨[], _⟩ (Expr.self_mem_scopedNodes _ _) _ _ _ _ rfl
  have hread : ∀ {r : Row}, (∀ row ∈ db.rows (owner main), t.Holds (cell row handle.column)) →
      r ∈ db.rows (owner main) → (Scene.bound d main owner db row [(table, inner)]).lookup p.table =
        some (columns.record r) →
      ∃ v, resolvePath ((Scene.mk row [(table, inner)]).resources d main owner db) [table] p =
        .ok v ∧ Shows t (cell r handle.column) v := by
    intro r hh hr hlookup
    refine ⟨_, ?_, (hh r hr).shows⟩
    rw [resolvePath, checkScope_eq_ok.2 hs, ← ht]
    exact congrArg Except.ok (readPath_of_field hlookup hl)
  cases hscoped : p.isScoped with
  | true =>
    have htable : p.table = table := List.mem_singleton.1 (hs hscoped)
    rw [hscoped, htable] at hf
    rw [htable, hsame] at hh hapart
    obtain ⟨v, hv, hx⟩ := hread hh hinner (by
      rw [htable, Scene.lookup_bound_of_lookup row (List.lookup_cons_self (b := inner)),
        Scene.record_eq hf])
    exact ⟨v, hv, ht, by rw [← hsame]; exact (hb columns hf).table_eq hl, hx, hapart⟩
  | false =>
    have htable : p.table = main :=
      ha.path ⟨around, e⟩ (Expr.mem_scopedNodes_related hn) p hp hscoped
    have hclosed : main ∉ [(table, inner)].map Prod.fst := by simpa using hne.symm
    rw [hscoped, htable] at hf
    rw [htable] at hh hapart
    obtain ⟨v, hv, hx⟩ := hread hh hrow (by
      rw [htable, Scene.lookup_bound_of_not_mem row hclosed, ← Scene.record_eq hf]
      exact List.lookup_cons_self)
    exact ⟨v, hv, ht, (ha.subject columns hf).table_eq hl, hx, hapart⟩

/-- What a scoped path is resolved to does not depend on the row of the subject. -/
theorem resolvePath_of_scoped {row row' inner : Row} {p : PathRef} (hs : p.isScoped = true) :
    resolvePath ((Scene.mk row' [(table, inner)]).resources d main owner db) [table] p =
      resolvePath ((Scene.mk row [(table, inner)]).resources d main owner db) [table] p := by
  by_cases ht : p.table = table
  · have hfield : ∀ row, ((Scene.mk row [(table, inner)]).resources d main owner db).field p.table =
        d.record table true inner := fun row => by
      show ((Scene.bound d main owner db row [(table, inner)]).lookup p.table).getD .null = _
      rw [ht, Scene.lookup_bound_of_lookup row (List.lookup_cons_self (b := inner))]
      rfl
    rw [resolvePath, resolvePath, readPath, readPath, hfield, hfield]
  · have hstray : checkScope p [table] = .error (.strayPath p (some [table])) := by
      rw [checkScope, if_pos]
      simpa [hs] using ht
    rw [resolvePath, resolvePath, hstray]
    rfl

variable {c : Clause} (ha : d.Binds main owner [] (.related kind table predicate minCount))
  (hflat : (Expr.related kind table predicate minCount).Flat)
  (ht : (Expr.related kind table predicate minCount).Typed config d actor owner db [])
  (hsame : owner table = owner main)

include ha hflat ht hsame

/-- The tests of the predicate are decided for any two rows of the SQL table. -/
theorem Expr.evaluateLeaf_pair [CharacterNames]
    (hc : predicate.clause config d actor [table] = .ok c) {row inner : Row}
    (hrow : row ∈ db.rows (owner main)) (hinner : inner ∈ db.rows (owner main)) :
    ∀ n ∈ predicate.scopedNodes [table], n.item.isLeaf = true → ∃ b, evaluateLeaf config actor
      ((Scene.mk row [(table, inner)]).resources d main owner db) [table] n.item = .ok b := by
  intro n hn hl
  obtain ⟨t, hcompares⟩ := ht.leaf n (mem_scopedNodes_related hn) hl
  obtain ⟨c', hc'⟩ := predicate.clause_of_scopedNodes hc n hn
  rw [hflat.single.around_eq hn, clause_leaf hl] at hc'
  refine hcompares.decides hl (fun p hp => ?_) hc'
  obtain ⟨column, hcol⟩ := leafClause_columnOf hc' p hp
  obtain ⟨v, hv, -, -, hx, -⟩ := ha.resolvePath_pair hsame hcompares hn hrow hinner hp hcol
  exact ⟨_, v, hv, hx⟩

/-- The predicate is decided for any two rows of the SQL table. -/
theorem Expr.decision_eq_holdsFor [CharacterNames]
    (hc : predicate.clause config d actor [table] = .ok c) {row inner : Row}
    (hrow : row ∈ db.rows (owner main)) (hinner : inner ∈ db.rows (owner main)) :
    predicate.decision config actor ((Scene.mk row [(table, inner)]).resources d main owner db)
        [table] =
      .ok (predicate.holdsFor config d actor main owner db table row inner) := by
  obtain ⟨b, hb, -⟩ := Single.decision_congr predicate hflat.single fun n hn hl => by
    obtain ⟨b, hb⟩ := evaluateLeaf_pair ha hflat ht hsame hc hrow hinner n hn hl
    exact ⟨b, hb, hb⟩
  rw [holdsFor, hb]
  rfl

/-- A predicate that does not look at the subject is true of the same rows for all of them. -/
theorem Expr.holdsFor_of_scoped [CharacterNames]
    (hc : predicate.clause config d actor [table] = .ok c)
    (hs : ∀ p ∈ predicate.paths, p.isScoped = true) {row row' inner : Row}
    (hrow : row ∈ db.rows (owner main)) (hinner : inner ∈ db.rows (owner main)) :
    predicate.holdsFor config d actor main owner db table row inner =
      predicate.holdsFor config d actor main owner db table row' inner := by
  have hsubject : ∃ b,
      predicate.decision config actor ((Scene.mk row [(table, inner)]).resources d main owner db)
        [table] = .ok b ∧
      predicate.decision config actor ((Scene.mk row' [(table, inner)]).resources d main owner db)
        [table] = .ok b := by
    refine Single.decision_congr predicate hflat.single fun n hn hl => ?_
    obtain ⟨b, hb⟩ := evaluateLeaf_pair ha hflat ht hsame hc hrow hinner n hn hl
    refine ⟨b, hb, ?_⟩
    rw [← hb]
    refine evaluateLeaf_congr fun p hp => resolvePath_of_scoped (hs p ?_)
    rw [← map_references_eq_paths [table]]
    exact List.mem_map_of_mem (mem_references.2 ⟨n, hn, hp, rfl⟩ : ⟨n.around, p⟩ ∈ _)
  obtain ⟨b, hb, hb'⟩ := hsubject
  rw [holdsFor, holdsFor, hb, hb']

/-- For a row of the SQL table in both places, the predicate comes out as its clause does, whatever
    the row of the subject is: it is hidden. -/
theorem Expr.agrees_hidden [CharacterNames] {inner : Row} (hinner : inner ∈ db.rows (owner main))
    (rest : List Frame) :
    predicate.Agrees config d actor db ((Scene.mk inner [(table, inner)]).resources d main owner db)
      [table] ([(owner main, inner)] :: rest) := by
  refine Single.agrees predicate hflat.single fun n hn hl => .leaf hl fun c hc => ?_
  obtain ⟨t, hcompares⟩ := ht.leaf n (mem_scopedNodes_related hn) hl
  refine hcompares.agree hl (fun p hp column hcol => ?_) hc
  obtain ⟨v, hv, htype, htable, hx, hapart⟩ := ha.resolvePath_pair hsame hcompares hn hinner hinner
    hp hcol
  rw [ite_self] at hx
  rw [readColumn_of_eq htable]
  exact ⟨v, hv, htype, hx, fun test text he => hapart test text he inner hinner⟩

/-- **The evaluator counts the rows that go with the subject.** -/
theorem Expr.decision_shared [CharacterNames]
    (hc : (Expr.related kind table predicate minCount).clause config d actor [] = .ok c) {row : Row}
    (hrow : row ∈ db.rows (owner main)) :
    (Expr.related kind table predicate minCount).decision config actor
        (d.resources main owner db row) [] =
      .ok (decide (minCount ≤ (db.rows (owner main)).countP
        (predicate.holdsFor config d actor main owner db table row))) := by
  obtain ⟨columns, name, p, htable, -, hp, -⟩ := clause_related_eq_ok.1 hc
  obtain ⟨hne, -⟩ := ha.related ⟨[], _⟩ (self_mem_scopedNodes _ _) _ _ _ _ rfl
  have hdec : (Expr.related kind table predicate minCount).decision config actor
      ((Scene.mk row []).resources d main owner db) [] =
        .ok (decide (minCount ≤ (db.rows (owner table)).countP
          (predicate.holdsFor config d actor main owner db table row))) :=
    related_decision (Declarations.declared_eq_ok.1 htable) List.not_mem_nil hne fun r hr =>
      decision_eq_holdsFor ha hflat ht hsame hp hrow (hsame ▸ hr)
  rw [hsame] at hdec
  exact hdec

/-- **The selection counts the rows that go with themselves.** -/
theorem Expr.truthValue_shared [CharacterNames]
    (hc : (Expr.related kind table predicate minCount).clause config d actor [] = .ok c) {row : Row}
    (hs : ∀ q ∈ c.selections (some [owner main]), q.2 = [q.1]) :
    c.truthValue db [[(owner main, row)]] =
      some (decide (minCount ≤ (db.rows (owner main)).countP fun inner =>
        predicate.holdsFor config d actor main owner db table inner inner)) := by
  obtain ⟨columns, name, p, htable, ho, hp, rfl⟩ := clause_related_eq_ok.1 hc
  obtain ⟨-, hb⟩ := ha.related ⟨[], _⟩ (self_mem_scopedNodes _ _) _ _ _ _ rfl
  obtain rfl := (hb columns (Declarations.declared_eq_ok.1 htable)).owner_eq ho
  rw [hsame] at hs ⊢
  refine rowsClause_truth hs fun hs inner hinner => ?_
  obtain ⟨b, hdec, htruth⟩ := agrees_hidden ha hflat ht hsame hinner [[(owner main, row)]] p hp
  rw [htruth hs, holdsFor, hdec]
  rfl

end

/-! ## Trees -/

theorem Declarations.Binds.mono {opened opened' : List String} {e e' : Expr F}
    (h : d.Binds main owner opened e) (hn : ∀ n ∈ e'.scopedNodes opened', n ∈ e.scopedNodes opened) :
    d.Binds main owner opened' e' :=
  ⟨h.subject, fun n h' => h.path n (hn n h'), fun n h' => h.related n (hn n h')⟩

namespace Expr

theorem Flat.mono {e e' : Expr F} (h : e.Flat)
    (hn : ∀ n ∈ e'.scopedNodes [], n ∈ e.scopedNodes []) : e'.Flat :=
  fun n h' => h n (hn n h')

/-- For each related node over the SQL table of the main table, there are enough rows that go with
    a subject iff there are enough that go with themselves. -/
def Undisturbed [CharacterNames] (config : Config) (d : Declarations) (actor : Value)
    (main : String) (owner : String → String) (db : Database) (e : Expr Empty) : Prop :=
  ∀ n ∈ e.scopedNodes [], ∀ kind table predicate minCount,
    n.item = .related kind table predicate minCount → owner table = owner main →
      ∀ row ∈ db.rows (owner main),
        (minCount ≤ (db.rows (owner main)).countP
          (predicate.holdsFor config d actor main owner db table row) ↔
        minCount ≤ (db.rows (owner main)).countP fun inner =>
          predicate.holdsFor config d actor main owner db table inner inner)

/-- Predicates that do not look at the subject are not disturbed. -/
theorem undisturbed_of_scoped [CharacterNames] {e : Expr Empty} {c : Clause} (hflat : e.Flat)
    (ha : d.Binds main owner [] e) (ht : e.Typed config d actor owner db [])
    (hc : e.clause config d actor [] = .ok c)
    (hs : ∀ n ∈ e.scopedNodes [], ∀ kind table predicate minCount,
      n.item = .related kind table predicate minCount → owner table = owner main →
        ∀ p ∈ predicate.paths, p.isScoped = true) :
    e.Undisturbed config d actor main owner db := by
  rintro ⟨around, item⟩ hn kind table predicate minCount rfl hsame row hrow
  obtain rfl : around = [] := hflat _ hn _ _ _ _ rfl
  have hsub : ∀ m ∈ (Expr.related kind table predicate minCount).scopedNodes [],
      m ∈ e.scopedNodes [] := e.scopedNodes_subset hn
  obtain ⟨c', hc'⟩ := e.clause_of_scopedNodes hc _ hn
  obtain ⟨-, -, p, -, -, hp, -⟩ := clause_related_eq_ok.1 hc'
  have heq : ∀ inner ∈ db.rows (owner main),
      predicate.holdsFor config d actor main owner db table row inner =
        predicate.holdsFor config d actor main owner db table inner inner := fun inner hinner =>
    holdsFor_of_scoped (ha.mono hsub) (hflat.mono hsub) (ht.mono hsub) hsame hp
      (hs _ hn _ _ _ _ rfl hsame) hrow hinner
  rw [List.countP_congr fun inner hinner => by rw [heq inner hinner]]

/-- **A tree without nested related nodes comes out as its clause does**, if its related nodes over
    the SQL table of the main table are not disturbed. -/
theorem Undisturbed.agrees [CharacterNames] (e : Expr Empty)
    (h : e.Undisturbed config d actor main owner db) (hflat : e.Flat) (ha : d.Binds main owner [] e)
    (ht : e.Typed config d actor owner db []) {row : Row} (hrow : row ∈ db.rows (owner main)) :
    e.Agrees config d actor db (d.resources main owner db row) [] [[(owner main, row)]] := by
  have hv : (Scene.mk row []).Valid d main owner db := ⟨hrow, ha.subject, .nil⟩
  induction e using treeInduction with
  | literal value => exact .literal value
  | leaf e he =>
    obtain ⟨t, hcompares⟩ := ht.leaf ⟨[], e⟩ (self_mem_scopedNodes _ _) he
    exact .leaf he fun c hc => hcompares.agree he
      (hcompares.shown hv (ha.path ⟨[], e⟩ (self_mem_scopedNodes _ _))) hc
  | function fn => exact fn.elim
  | related kind table predicate minCount =>
    obtain ⟨hne, hb⟩ := ha.related ⟨[], _⟩ (self_mem_scopedNodes _ _) _ _ _ _ rfl
    by_cases hsame : owner table = owner main
    · intro c hc
      refine ⟨_, decision_shared ha hflat ht hsame hc hrow, fun hs => ?_⟩
      rw [truthValue_shared ha hflat ht hsame hc hs, decide_eq_decide.2
        (h ⟨[], _⟩ (self_mem_scopedNodes _ _) kind table predicate minCount rfl hsame row hrow)]
    · have hn : ∀ n ∈ predicate.scopedNodes [table],
          n ∈ (Expr.related kind table predicate minCount).scopedNodes [] :=
        fun n hn => mem_scopedNodes_related hn
      have harranges : d.Arranges main owner [table] predicate :=
        ⟨ha.subject, fun n hm => ha.path n (hn n hm), fun n hm kind table predicate minCount he =>
          absurd he (hflat.single n hm kind table predicate minCount)⟩
      refine .related (s := ⟨row, []⟩) List.not_mem_nil hne hb fun r hr => ?_
      exact predicate.agree ⟨row, [(table, r)]⟩
        ⟨hrow, ha.subject, .cons .nil hr hne hsame List.not_mem_nil hb⟩ harranges
        ((ht.mono hn).leavesAgree harranges)
  | not e ih =>
    have hn : ∀ n ∈ e.scopedNodes [], n ∈ (Expr.not e).scopedNodes [] :=
      fun n hn => mem_scopedNodes_not hn
    exact .not (ih (fun n h' => h n (hn n h')) (hflat.mono hn) (ha.mono hn) (ht.mono hn))
  | junction kind rules ih =>
    refine .junction fun e he => ?_
    have hn : ∀ n ∈ e.scopedNodes [], n ∈ (Expr.junction kind rules).scopedNodes [] :=
      fun n hn => mem_scopedNodes_junction he hn
    exact ih e he (fun n h' => h n (hn n h')) (hflat.mono hn) (ha.mono hn) (ht.mono hn)

end Expr

/-! ## Rules -/

/-- **What a related table in the SQL table of the main table comes to.**  For a rule whose related
    nodes do not lie inside one another: the filter selects the rows that the evaluator allows if
    the nodes over the SQL table of the main table are not disturbed, as they are not if their
    predicates do not look at the subject.  By such a node alone, the evaluator allows a row iff
    enough rows of the SQL table go with it, and the filter selects all rows if enough go with
    themselves, and no row otherwise. -/
theorem Rule.select_shared [CharacterNames] (config : Config) (call : Meaning F) (d : Declarations)
    (actor : Value) (main : String) (owner : String → String) (db : Database) (r : Rule F)
    (c : Clause) (h : (r.compile config call d actor).result = .ok c) :
    ∃ e, r.expansion config call actor = some e ∧
      (e.Flat → d.Binds main owner [] e → e.Typed config d actor owner db [] →
        (e.Undisturbed config d actor main owner db →
          r.SelectsAllowed config call d actor main owner db c) ∧
        ((∀ n ∈ e.scopedNodes [], ∀ kind table predicate minCount,
          n.item = .related kind table predicate minCount → owner table = owner main →
            ∀ p ∈ predicate.paths, p.isScoped = true) →
          e.Undisturbed config d actor main owner db) ∧
        ∀ kind table predicate minCount, e = .related kind table predicate minCount →
          owner table = owner main →
          (∀ id : Column, id.table = some (owner main) → (Selection.mk [id] c).run db =
            .ok ((if minCount ≤ (db.rows (owner main)).countP fun inner =>
                predicate.holdsFor config d actor main owner db table inner inner
              then db.rows (owner main) else []).map fun row => [cell row id])) ∧
          ∀ row ∈ db.rows (owner main),
            (r.evaluate config call actor (d.resources main owner db row)).result =
              .ok (decide (minCount ≤ (db.rows (owner main)).countP
                (predicate.holdsFor config d actor main owner db table row))) ∨
            ∃ limit, config.maxExpressionNodes = some limit ∧
              (r.evaluate config call actor (d.resources main owner db row)).result =
                .error (.budgetExceeded limit)) := by
  obtain ⟨e, he, hc⟩ := Rule.expansion_of_compile h
  refine ⟨e, he, fun hflat ha ht => ?_⟩
  have hnear : ∀ q ∈ c.placed [owner main], q.IsNear :=
    (hflat.near ha (e.covers_of_clause hc)).placed ha hc
  refine ⟨fun hu => Rule.select_of_agrees h he ha ht hnear fun row hrow =>
    hu.agrees e hflat ha ht hrow, Expr.undisturbed_of_scoped hflat ha ht hc, ?_⟩
  rintro kind table predicate minCount rfl hsame
  refine ⟨fun id hid => ?_, fun row hrow => Rule.evaluate_of_decision he
    (Expr.decision_shared ha hflat ht hsame hc hrow)⟩
  rw [ha.run_own ht hc hnear hid]
  have htruth : ∀ row, c.truthValue db [[(owner main, row)]] = _ := fun row =>
    Expr.truthValue_shared ha hflat ht hsame hc ((ha.selections_iff hc).2 hnear)
  simp only [htruth]
  split
  · rename_i hle
    simp [hle]
  · rename_i hlt
    simp [hlt]

/-- Items, and their peers among the same items. -/
def peerTables : Declarations where
  tables := [("item", tableColumns "items" [("id", .int), ("owner_id", .int)] false)]
  related := some [("peer", tableColumns "items" [("id", .int), ("owner_id", .int)] false)]

theorem peerTables_finds {name : String} {isScoped : Bool} {columns : Columns}
    (h : peerTables.Finds name isScoped columns) :
    columns = tableColumns "items" [("id", .int), ("owner_id", .int)] false := by
  have hm : (name, columns) ∈ peerTables.all := by
    cases h with
    | subject ht => exact List.mem_append_right _ (Keyed.mem_of_lookup ht)
    | related hr ht => exact List.mem_append_left _ (hr ▸ Keyed.mem_of_lookup ht)
    | other _ ht => exact List.mem_append_right _ (Keyed.mem_of_lookup ht)
  simp only [peerTables, Declarations.all, Option.getD_some, List.cons_append, List.nil_append,
    List.mem_cons, Prod.mk.injEq, List.not_mem_nil, or_false] at hm
  rcases hm with ⟨-, rfl⟩ | ⟨-, rfl⟩ <;> rfl

/-- The items if there are as many peers with some owner. -/
def peeredItems (owner : Operand) (minCount : Nat) : Expr Empty :=
  .related .count "peer" (.comparison .eq ⟨true, "peer", "owner_id"⟩ owner) minCount

theorem mem_peeredItems {right : Operand} {minCount : Nat} {n : Nested (Expr Empty)}
    (h : n ∈ (peeredItems right minCount).scopedNodes []) : n = ⟨[], peeredItems right minCount⟩ ∨
      n = ⟨["peer"], .comparison .eq ⟨true, "peer", "owner_id"⟩ right⟩ := by
  simpa [peeredItems, Expr.scopedNodes] using h

theorem peeredItems_flat (right : Operand) (minCount : Nat) :
    (peeredItems right minCount).Flat := by
  intro n hn kind table predicate minCount he
  rcases mem_peeredItems hn with rfl | rfl
  · rfl
  · cases he

theorem peeredItems_binds {right : Operand} {minCount : Nat}
    (hr : ∀ p ∈ right.path?, p.isScoped = false → p.table = "item") :
    peerTables.Binds "item" (fun _ => "items") [] (peeredItems right minCount) := by
  have hb : ∀ {name isScoped columns}, peerTables.Finds name isScoped columns →
      columns.BelongTo "items" := by
    intro name isScoped columns hf
    rw [peerTables_finds hf]
    simp [Columns.BelongTo, tableColumns]
  refine ⟨fun columns hf => hb hf, fun n hn p hp hs => ?_,
    fun n hn kind table predicate minCount he => ?_⟩
  · rcases mem_peeredItems hn with rfl | rfl
    · cases hp
    · rcases List.mem_cons.1 hp with rfl | hp
      · cases hs
      · exact hr p (Option.mem_toList.1 hp) hs
  · rcases mem_peeredItems hn with rfl | rfl
    · cases he
      exact ⟨by decide, fun columns hf => hb hf⟩
    · cases he

theorem peeredItems_typed {right : Operand} {minCount : Nat}
    (hr : ∀ v ∈ right.constant?, ColumnType.int.Takes v) (hw : Datum.hasWordSize minCount = true) :
    (peeredItems right minCount).Typed config peerTables actor (fun _ => "items") itemRows [] := by
  refine ⟨fun n hn hl => ?_, fun n hn kind table predicate minCount he => ?_⟩
  · rcases mem_peeredItems hn with rfl | rfl
    · cases hl
    · refine ⟨.int, fun p _ handle hd => ?_, fun v hv => ?_, nofun, nofun, nofun⟩
      · obtain ⟨columns, hf, hl⟩ := hd
        rw [peerTables_finds hf] at hl
        refine ⟨?_, fun row hrow => itemRows_holds _ row hrow _⟩
        have hm := Keyed.mem_of_lookup hl
        simp only [tableColumns, List.map_cons, List.map_nil, List.mem_cons, Prod.mk.injEq,
          List.not_mem_nil, or_false] at hm
        rcases hm with ⟨-, rfl⟩ | ⟨-, rfl⟩ <;> rfl
      · exact hr v (by simpa [Expr.constants] using hv)
  · rcases mem_peeredItems hn with rfl | rfl
    · cases he
      exact hw
    · cases he

section

attribute [local instance] CharacterNames.empty

/-- Peers with the owner seven, whatever the item: they are there for all items or for none. -/
theorem Rule.select_shared_of_peers : ∃ c,
    ((Rule.expr (peeredItems (.scalar (.int 7)) 1)).compile {} noFunctions peerTables
      .null).result = .ok c ∧
    (Rule.expr (peeredItems (.scalar (.int 7)) 1)).SelectsAllowed {} noFunctions peerTables .null
      "item" (fun _ => "items") itemRows c := by
  refine ⟨_, rfl, ?_⟩
  obtain ⟨e, he, hs⟩ := Rule.select_shared {} noFunctions peerTables .null "item"
    (fun _ => "items") itemRows (.expr (peeredItems (.scalar (.int 7)) 1)) _ rfl
  cases he
  obtain ⟨hsel, hundisturbed, -⟩ := hs (peeredItems_flat _ _) (peeredItems_binds nofun)
    (peeredItems_typed (fun v hv => by cases hv; exact rfl) rfl)
  refine hsel (hundisturbed fun n hn kind table predicate minCount he _ => ?_)
  rcases mem_peeredItems hn with rfl | rfl <;> cases he
  rw [Expr.paths_leaf rfl]
  simp [Expr.nodePaths, Operand.path?]

/-- Two peers with the owner of the item, where the peers are put into the table of the items and
    each has an owner of its own: all items are selected, and the evaluator allows none of them. -/
theorem Rule.select_hides_subject :
    let e := peeredItems (.path ⟨false, "item", "owner_id"⟩) 2
    Database.insert [] "items" [("id", .int), ("owner_id", .int)]
        [.dict [("id", .int 1), ("owner_id", .int 7)], .dict [("id", .int 2), ("owner_id", .int 8)]] =
      .ok [("items", itemRows.rows "items")] ∧
    e.Flat ∧ peerTables.Binds "item" (fun _ => "items") [] e ∧
      e.Typed {} peerTables .null (fun _ => "items") itemRows [] ∧
      ∃ c, ((Rule.expr e).compile {} noFunctions peerTables .null).result = .ok c ∧
        (Selection.mk [⟨"id", some "items", some .int⟩] c).run itemRows =
          .ok [[.integer 1], [.integer 2]] ∧
        ∀ row ∈ itemRows.rows "items", ((Rule.expr e).evaluate {} noFunctions .null
          (peerTables.resources "item" (fun _ => "items") itemRows row)).result = .ok false := by
  refine ⟨rfl, peeredItems_flat _ _, peeredItems_binds ?_, peeredItems_typed nofun rfl, _, rfl, rfl,
    fun row hrow => ?_⟩
  · rintro p ⟨⟩ -
    rfl
  · have hrow : row = [("id", .integer 1), ("owner_id", .integer 7)] ∨
        row = [("id", .integer 2), ("owner_id", .integer 8)] := by
      simpa [itemRows, Database.rows] using hrow
    rcases hrow with rfl | rfl <;> rfl

end

end Clearance
