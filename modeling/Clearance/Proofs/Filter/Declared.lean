/-
  Nothing that is not declared gets into a filter.

  * `Declarations.Covers d opened e`: all that the tree `e` refers to is declared, and each of
    its scoped paths lies inside a related node over its table;
  * `Expr.covers_of_clause`: a tree that has a clause is covered, whatever part of it the clause
    does not need;
  * `Expr.placed_of_clause`: every column of the clause, those of inner selections included,
    is what some path of the tree is declared as, and the selections around it are those of the
    related nodes around the path;
  * `Rule.compile_covers`: the same of a rule and its expansion.
-/
import Clearance.Proofs.Filter.Guarded

namespace Clearance

open Sql

variable {F : Type} {config : Config} {d : Declarations} {actor : Value}

/-- All that a tree refers to is declared and in scope, where some tables are open around it. -/
structure Declarations.Covers (d : Declarations) (opened : List String) (e : Expr F) : Prop where
  path : ∀ o ∈ e.references opened, ∃ h, d.Declares o.item h
  scope : ∀ o ∈ e.references opened, o.item.isScoped = true → o.item.table ∈ o.around
  table : ∀ name ∈ e.relatedTables, ∃ columns, d.Finds name true columns

/-- The SQL tables of some related tables. -/
def Declarations.Owners (d : Declarations) : List String → List String → Prop :=
  List.Forall₂ fun name owner => ∃ columns, d.Finds name true columns ∧ columns.owner = .ok owner

namespace Declarations.Covers

variable {opened : List String}

theorem leaf {e : Expr F} (he : e.isLeaf = true)
    (h : ∀ p ∈ e.nodePaths, ∃ column, columnOf d opened p = .ok column) :
    d.Covers opened e := by
  have hr : ∀ o ∈ e.references opened, o.around = opened ∧ o.item ∈ e.nodePaths := by
    rw [Expr.references_leaf he]
    simp
  refine ⟨fun o ho => ?_, fun o ho => ?_, fun name hn => ?_⟩
  · obtain ⟨column, hc⟩ := h _ (hr o ho).2
    obtain ⟨-, handle, hd, -⟩ := columnOf_eq_ok.1 hc
    exact ⟨handle, hd⟩
  · obtain ⟨column, hc⟩ := h _ (hr o ho).2
    rw [(hr o ho).1]
    exact (columnOf_eq_ok.1 hc).1
  · rw [Expr.relatedTables_leaf he] at hn
    cases hn

theorem related {kind : RelatedKind} {table : String} {predicate : Expr F} {minCount : Nat}
    {columns : Columns} (ht : d.Finds table true columns)
    (h : d.Covers (opened ++ [table]) predicate) :
    d.Covers opened (.related kind table predicate minCount) := by
  refine ⟨?_, ?_, fun name hn => ?_⟩
  · rw [Expr.references_related]; exact h.path
  · rw [Expr.references_related]; exact h.scope
  · rw [Expr.relatedTables_related, List.mem_cons] at hn
    rcases hn with rfl | hn
    · exact ⟨columns, ht⟩
    · exact h.table name hn

theorem not {e : Expr F} (h : d.Covers opened e) : d.Covers opened (.not e) := by
  refine ⟨?_, ?_, ?_⟩
  · rw [Expr.references_not]; exact h.path
  · rw [Expr.references_not]; exact h.scope
  · rw [Expr.relatedTables_not]; exact h.table

theorem junction {kind : Junction} {rules : List (Expr F)} (h : ∀ e ∈ rules, d.Covers opened e) :
    d.Covers opened (.junction kind rules) := by
  refine ⟨fun o ho => ?_, fun o ho => ?_, fun name hn => ?_⟩
  · obtain ⟨e, he, ho⟩ := Expr.mem_references_junction.1 ho
    exact (h e he).path o ho
  · obtain ⟨e, he, ho⟩ := Expr.mem_references_junction.1 ho
    exact (h e he).scope o ho
  · obtain ⟨e, he, hn⟩ := Expr.mem_relatedTables_junction.1 hn
    exact (h e he).table name hn

end Declarations.Covers

/-! ## Trees -/

/-- A tree that has a clause is covered, whatever the clause does not need of it. -/
theorem Expr.covers_of_clause (e : Expr Empty) : ∀ {opened c},
    e.clause config d actor opened = .ok c → d.Covers opened e := by
  induction e using treeInduction with
  | literal value => exact fun _ => ⟨by simp [references, scopedNodes, nodePaths],
      by simp [references, scopedNodes, nodePaths], by simp [relatedTables, walk_eq_preorder, preorder]⟩
  | leaf e he =>
    intro opened c h
    rw [clause_leaf he] at h
    exact .leaf he (leafClause_columnOf h)
  | function fn => exact fn.elim
  | related kind table predicate minCount ih =>
    intro opened c h
    obtain ⟨columns, owner, p, ht, -, hp, -⟩ := clause_related_eq_ok.1 h
    exact .related (Declarations.declared_eq_ok.1 ht) (ih hp)
  | not e ih =>
    intro opened c h
    obtain ⟨p, hp, -⟩ := clause_not_eq_ok.1 h
    exact .not (ih hp)
  | junction kind rules ih =>
    intro opened c h
    obtain ⟨cs, hcs, -⟩ := clause_junction_eq_ok.1 h
    refine .junction fun e he => ?_
    obtain ⟨c, -, hc⟩ := exists_clause hcs he
    exact ih e he hc

/-! ## Columns -/

/-- A clause without inner selections has its columns in its own place. -/
theorem Sql.Clause.placed_eq {c : Clause} (h : c.selections none = []) (around : List String) :
    c.placed around = c.columns.map fun column => ⟨around, column⟩ := by
  induction c using clauseInduction with
  | test c hc => cases c <;> first | rfl | cases hc
  | not x ih => exact ih h
  | and xs ih | or xs ih =>
    simp only [selections, selectionsAll_eq, List.flatMap_eq_nil_iff] at h
    simp only [placed, columns, placedAll_eq, columnsAll_eq, List.map_flatMap]
    exact List.flatMap_congr fun x hx => ih x hx (h x hx)
  | exists' table p | count table p => simp [selections] at h

/-- The columns of the clause of a tree are what paths of the tree are declared as, each inside
    the selections of the related nodes around its path. -/
theorem Expr.placed_of_clause (e : Expr Empty) : ∀ {opened owners c},
    d.Owners opened owners → e.clause config d actor opened = .ok c →
    ∀ around, ∀ q ∈ c.placed (around ++ owners), ∃ o ∈ e.references opened, ∃ inner h,
      d.Owners o.around inner ∧ q.around = around ++ inner ∧
        d.Declares o.item h ∧ h.column = q.item := by
  induction e using treeInduction with
  | literal value =>
    rintro opened owners c - h around q hq
    cases h
    cases hq
  | leaf e he =>
    intro opened owners c ho h around q hq
    rw [clause_leaf he] at h
    rw [Clause.placed_eq (leafClause_selections he h none), List.mem_map] at hq
    obtain ⟨column, hc, rfl⟩ := hq
    obtain ⟨p, hp, hc⟩ := leafClause_columns he h column hc
    obtain ⟨-, handle, hd, he'⟩ := columnOf_eq_ok.1 hc
    refine ⟨⟨opened, p⟩, ?_, owners, handle, ho, rfl, hd, he'⟩
    rw [references_leaf he]
    exact List.mem_map_of_mem hp
  | function fn => exact fn.elim
  | related kind table predicate minCount ih =>
    intro opened owners c ho h around q hq
    obtain ⟨columns, owner, p, ht, hw, hp, rfl⟩ := clause_related_eq_ok.1 h
    have ho' : d.Owners (opened ++ [table]) (owners ++ [owner]) :=
      List.rel_append ho (.cons ⟨columns, Declarations.declared_eq_ok.1 ht, hw⟩ .nil)
    rw [references_related]
    refine ih ho' hp around q ?_
    rw [← List.append_assoc]
    unfold rowsClause at hq
    split at hq
    · cases hq
    · exact hq
    · exact hq
  | not e ih =>
    intro opened owners c ho h around q hq
    obtain ⟨p, hp, rfl⟩ := clause_not_eq_ok.1 h
    rw [references_not]
    rw [(Clause.joined_placed _).negate] at hq
    exact ih ho hp around q hq
  | junction kind rules ih =>
    intro opened owners c ho h around q hq
    obtain ⟨cs, hcs, rfl⟩ := clause_junction_eq_ok.1 h
    obtain ⟨c, hc, hq⟩ := (junctionClause_madeOf (P := (· ∈ cs)) kind fun c hc => .base hc).mem
      (Clause.joined_placed _) hq
    obtain ⟨e, he, hc⟩ := exists_of_mem_clauses hcs hc
    obtain ⟨o, hr, h⟩ := ih e he ho hc around q hq
    exact ⟨o, mem_references_junction.2 ⟨e, he, hr⟩, h⟩

/-- The searches in the clause of a tree are those of its nodes. -/
theorem Expr.searches_of_clause (e : Expr Empty) : ∀ {opened c},
    e.clause config d actor opened = .ok c →
    ∀ q ∈ c.searches, ∃ n ∈ e.scopedNodes opened, n.item.Searches d n.around q := by
  induction e using treeInduction with
  | literal value =>
    rintro opened c h q hq
    cases h
    cases hq
  | leaf e he =>
    intro opened c h q hq
    rw [clause_leaf he] at h
    exact ⟨⟨opened, e⟩, self_mem_scopedNodes _ _, leafClause_searches he h q hq⟩
  | function fn => exact fn.elim
  | related kind table predicate minCount ih =>
    intro opened c h q hq
    obtain ⟨columns, owner, p, -, -, hp, rfl⟩ := clause_related_eq_ok.1 h
    have hq : q ∈ p.searches := by
      unfold rowsClause at hq
      split at hq
      · cases hq
      · exact hq
      · exact hq
    obtain ⟨n, hn, hs⟩ := ih hp q hq
    exact ⟨n, mem_scopedNodes_related hn, hs⟩
  | not e ih =>
    intro opened c h q hq
    obtain ⟨p, hp, rfl⟩ := clause_not_eq_ok.1 h
    rw [Clause.joined_searches.negate] at hq
    obtain ⟨n, hn, hs⟩ := ih hp q hq
    exact ⟨n, List.mem_cons_of_mem _ hn, hs⟩
  | junction kind rules ih =>
    intro opened c h q hq
    obtain ⟨cs, hcs, rfl⟩ := clause_junction_eq_ok.1 h
    obtain ⟨c, hc, hq⟩ := (junctionClause_madeOf (P := (· ∈ cs)) kind fun c hc => .base hc).mem
      Clause.joined_searches hq
    obtain ⟨e, he, hc⟩ := exists_of_mem_clauses hcs hc
    obtain ⟨n, hn, hs⟩ := ih e he hc q hq
    exact ⟨n, List.mem_cons_of_mem _ (mem_scopedAll.2 ⟨e, he, hn⟩), hs⟩

/-! ## Rules -/

/-- **A filter is built from declared columns only.**  A rule that compiles has an expansion that
    is covered, and each column of the filter is what a path of the expansion is declared as;
    a rule whose expansion is not covered does not compile. -/
theorem Rule.compile_covers (config : Config) (call : Meaning F) (d : Declarations)
    (actor : Value) (r : Rule F) :
    (∀ c, (r.compile config call d actor).result = .ok c →
      ∃ e, r.expansion config call actor = some e ∧ d.Covers [] e ∧
        ∀ q ∈ c.placed [], ∃ o ∈ e.references [], ∃ h, d.Declares o.item h ∧ h.column = q.item) ∧
    (∀ e, r.expansion config call actor = some e → ¬ d.Covers [] e →
      ∃ err, (r.compile config call d actor).result = .error err) := by
  have hcov : ∀ c, (r.compile config call d actor).result = .ok c →
      ∃ e, r.expansion config call actor = some e ∧ d.Covers [] e ∧
        ∀ q ∈ c.placed [], ∃ o ∈ e.references [], ∃ h, d.Declares o.item h ∧ h.column = q.item := by
    intro c h
    obtain ⟨e, he, hc⟩ := Rule.expansion_of_compile h
    refine ⟨e, he, e.covers_of_clause hc, fun q hq => ?_⟩
    obtain ⟨o, ho, _, handle, -, -, hd, hi⟩ := e.placed_of_clause .nil hc [] q hq
    exact ⟨o, ho, handle, hd, hi⟩
  refine ⟨hcov, fun e he hn => ?_⟩
  cases h : (r.compile config call d actor).result with
  | error err => exact ⟨err, rfl⟩
  | ok c =>
    obtain ⟨e', he', hc, -⟩ := hcov c h
    rw [he] at he'
    cases he'
    exact absurd hc hn

/-- Items, which have an owner, with notes on them and likes of them. -/
def itemTables : Declarations where
  tables := [("item", tableColumns "items" [("id", .int), ("owner_id", .int)] false)]
  related := some
    [("notes", tableColumns "notes" [("id", .int), ("item_id", .int)] false),
     ("likes", tableColumns "likes" [("id", .int), ("user_id", .int)] false)]

/-- A node that asks for no row is covered all the same, and a path on a table that is not open
    is refused in it. -/
theorem Rule.compile_covers_of_no_rows :
    (∃ e, (Rule.expr (.related .count "notes"
        (.comparison .eq ⟨true, "notes", "item_id"⟩ (.path ⟨false, "item", "id"⟩)) 0)
          : Rule Empty).expansion {} noFunctions .null = some e ∧
      itemTables.Covers [] e ∧
      ∀ q ∈ (Clause.truth true).placed [], ∃ o ∈ e.references [], ∃ h,
        itemTables.Declares o.item h ∧ h.column = q.item) ∧
    ∃ err, ((Rule.expr (.related .count "notes" (.nullCheck .isNull ⟨true, "likes", "id"⟩) 0)
      : Rule Empty).compile {} noFunctions itemTables .null).result = .error err := by
  refine ⟨(Rule.compile_covers {} _ itemTables .null _).1 _ rfl,
    (Rule.compile_covers {} _ itemTables .null _).2 _ rfl fun h => ?_⟩
  have hs := h.scope ⟨["notes"], ⟨true, "likes", "id"⟩⟩ (List.mem_singleton.2 rfl) rfl
  simp at hs

end Clearance
