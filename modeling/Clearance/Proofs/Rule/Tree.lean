/-
  The nodes of a tree with the tables that are open around them.

  * `Expr.isLeaf` tells the nodes that test columns; `Expr.treeInduction` is induction over
    trees with one case for all of them;
  * `Expr.scopedNodes` are the nodes of a tree in the order of `Expr.walk`
    (`map_scopedNodes_eq_walk`), each with the tables of the related nodes around it
    (`Expr.around_of_mem`), and `Expr.references` the paths that they hold, with the same tables;
  * `Expr.unscopedPaths_eq`: the scoped paths that no related node opens, among the references.
-/
import Clearance.Rule.Walk

namespace Clearance

/-- Something with the names of what is around it, the outermost first. -/
structure Nested (α : Type) where
  around : List String
  item : α

namespace Expr

variable {F : Type}

/-! ## Induction -/

/-- Whether a node tests columns. -/
def isLeaf : Expr F → Bool
  | literal _ | function _ _ | related _ _ _ _ | .not _ | junction _ _ => false
  | _ => true

/-- Induction over a tree, with one case for all nodes that test columns. -/
@[elab_as_elim]
theorem treeInduction {motive : Expr F → Prop}
    (literal : ∀ value, motive (.literal value))
    (leaf : ∀ e, e.isLeaf = true → motive e)
    (function : ∀ fn description, motive (.function fn description))
    (related : ∀ kind table predicate minCount, motive predicate →
      motive (.related kind table predicate minCount))
    (not : ∀ e, motive e → motive (.not e))
    (junction : ∀ kind rules, (∀ e ∈ rules, motive e) → motive (.junction kind rules)) :
    ∀ e, motive e
  | .literal value => literal value
  | .function fn description => function fn description
  | .related kind table predicate minCount =>
    related kind table predicate minCount
      (treeInduction literal leaf function related not junction predicate)
  | .not e => not e (treeInduction literal leaf function related not junction e)
  | .junction kind rules =>
    junction kind rules fun e _ => treeInduction literal leaf function related not junction e
  | .comparison op left right => leaf (.comparison op left right) rfl
  | .inArray path values => leaf (.inArray path values) rfl
  | .nullCheck test path => leaf (.nullCheck test path) rfl
  | .textMatch test path text => leaf (.textMatch test path text) rfl
  | .between path min max => leaf (.between path min max) rfl
  | .matches path pattern flags => leaf (.matches path pattern flags) rfl
  | .tenantScoped path => leaf (.tenantScoped path) rfl
  | .belongsToTenant actorValue path => leaf (.belongsToTenant actorValue path) rfl

/-! ## Nodes in their scopes -/

mutual

/-- The nodes of a tree, each with the tables that are open around it. -/
def scopedNodes (around : List String) : Expr F → List (Nested (Expr F))
  | e@(junction _ rules) => ⟨around, e⟩ :: scopedAll around rules
  | e@(.not inner) => ⟨around, e⟩ :: inner.scopedNodes around
  | e@(related _ table predicate _) => ⟨around, e⟩ :: predicate.scopedNodes (around ++ [table])
  | e => [⟨around, e⟩]

/-- The nodes of some trees. -/
def scopedAll (around : List String) : List (Expr F) → List (Nested (Expr F))
  | [] => []
  | e :: rest => e.scopedNodes around ++ scopedAll around rest

end

/-- The paths of a tree, each with the tables that are open around it. -/
def references (around : List String) (e : Expr F) : List (Nested PathRef) :=
  (e.scopedNodes around).flatMap fun n => n.item.nodePaths.map fun p => ⟨n.around, p⟩

theorem mem_scopedAll {around : List String} {n : Nested (Expr F)} {es : List (Expr F)} :
    n ∈ scopedAll around es ↔ ∃ e ∈ es, n ∈ e.scopedNodes around := by
  induction es with
  | nil => simp [scopedAll]
  | cons e rest ih => simp [scopedAll, ih]

theorem scopedNodes_leaf {around : List String} {e : Expr F} (h : e.isLeaf = true) :
    e.scopedNodes around = [⟨around, e⟩] := by
  cases e <;> simp_all [isLeaf, scopedNodes]

theorem self_mem_scopedNodes (around : List String) (e : Expr F) :
    ⟨around, e⟩ ∈ e.scopedNodes around := by
  cases e <;> simp [scopedNodes]

theorem mem_scopedNodes_related {around : List String} {kind : RelatedKind} {table : String}
    {predicate : Expr F} {minCount : Nat} {n : Nested (Expr F)}
    (h : n ∈ predicate.scopedNodes (around ++ [table])) :
    n ∈ (related kind table predicate minCount).scopedNodes around :=
  List.mem_cons_of_mem _ h

theorem mem_scopedNodes_not {around : List String} {e : Expr F} {n : Nested (Expr F)}
    (h : n ∈ e.scopedNodes around) : n ∈ (Expr.not e).scopedNodes around :=
  List.mem_cons_of_mem _ h

theorem mem_scopedNodes_junction {around : List String} {kind : Junction} {rules : List (Expr F)}
    {e : Expr F} (he : e ∈ rules) {n : Nested (Expr F)} (h : n ∈ e.scopedNodes around) :
    n ∈ (junction kind rules).scopedNodes around :=
  List.mem_cons_of_mem _ (mem_scopedAll.2 ⟨e, he, h⟩)

/-- The nodes of a node of a tree are nodes of the tree. -/
theorem scopedNodes_subset (e : Expr F) : ∀ {opened n}, n ∈ e.scopedNodes opened →
    n.item.scopedNodes n.around ⊆ e.scopedNodes opened := by
  induction e using treeInduction with
  | literal | function =>
    intro opened n hn
    rw [scopedNodes, List.mem_singleton] at hn
    · subst hn; exact List.Subset.refl _
    all_goals simp
  | leaf e he =>
    intro opened n hn
    rw [scopedNodes_leaf he, List.mem_singleton] at hn
    subst hn
    exact List.Subset.refl _
  | related kind table predicate minCount ih =>
    intro opened n hn
    rcases List.mem_cons.1 hn with rfl | hn
    · exact List.Subset.refl _
    · exact fun m hm => mem_scopedNodes_related (ih hn hm)
  | not e ih =>
    intro opened n hn
    rcases List.mem_cons.1 hn with rfl | hn
    · exact List.Subset.refl _
    · exact fun m hm => mem_scopedNodes_not (ih hn hm)
  | junction kind rules ih =>
    intro opened n hn
    rcases List.mem_cons.1 hn with rfl | hn
    · exact List.Subset.refl _
    · obtain ⟨e, he, hn⟩ := mem_scopedAll.1 hn
      exact fun m hm => mem_scopedNodes_junction he (ih e he hn hm)

theorem map_scopedAll {around : List String} {es : List (Expr F)}
    (h : ∀ e ∈ es, (e.scopedNodes around).map Nested.item = e.preorder) :
    (scopedAll around es).map Nested.item = preorderAll es := by
  induction es with
  | nil => rfl
  | cons e rest ih =>
    rw [scopedAll, List.map_append, h e (by simp), ih fun e' he => h e' (by simp [he]),
      preorderAll]

theorem map_scopedNodes (e : Expr F) :
    ∀ around, (e.scopedNodes around).map Nested.item = e.preorder := by
  induction e using treeInduction with
  | literal | function => intro around; rfl
  | leaf e h => intro around; rw [scopedNodes_leaf h]; cases e <;> simp_all [isLeaf, preorder]
  | related kind table predicate minCount ih =>
    intro around; simp [scopedNodes, preorder, ih (around ++ [table])]
  | not e ih => intro around; simp [scopedNodes, preorder, ih around]
  | junction kind rules ih =>
    intro around; simp [scopedNodes, preorder, map_scopedAll fun e he => ih e he around]

/-- The nodes in their scopes are the nodes of the walk, in its order. -/
theorem map_scopedNodes_eq_walk (around : List String) (e : Expr F) :
    (e.scopedNodes around).map Nested.item = e.walk := by
  rw [map_scopedNodes, walk_eq_preorder]

theorem map_references_eq_paths (around : List String) (e : Expr F) :
    (e.references around).map Nested.item = e.paths := by
  rw [references, paths, ← map_scopedNodes_eq_walk around, List.map_flatMap, List.flatMap_map]
  simp [Function.comp_def]

theorem mem_references {around : List String} {e : Expr F} {o : Nested PathRef} :
    o ∈ e.references around ↔
      ∃ n ∈ e.scopedNodes around, o.item ∈ n.item.nodePaths ∧ o.around = n.around := by
  obtain ⟨tables, p⟩ := o
  simp only [references, List.mem_flatMap, List.mem_map, Nested.mk.injEq]
  constructor
  · rintro ⟨n, hn, q, hq, rfl, rfl⟩; exact ⟨n, hn, hq, rfl⟩
  · rintro ⟨n, hn, hp, rfl⟩; exact ⟨n, hn, p, hp, rfl, rfl⟩

/-- **What is around a node**: what is around the tree, and one table for each related node that
    the node lies in the predicate of. -/
theorem around_of_mem (e : Expr F) : ∀ {opened n}, n ∈ e.scopedNodes opened →
    ∃ inner, n.around = opened ++ inner ∧ ∀ l table r, inner = l ++ table :: r →
      ∃ m ∈ e.scopedNodes opened, m.around = opened ++ l ∧
        ∃ kind predicate minCount, m.item = .related kind table predicate minCount := by
  induction e using treeInduction with
  | literal | function =>
    intro opened n hn
    rw [scopedNodes, List.mem_singleton] at hn
    · exact ⟨[], by simp [hn], by simp⟩
    all_goals simp
  | leaf e he =>
    intro opened n hn
    rw [scopedNodes_leaf he, List.mem_singleton] at hn
    exact ⟨[], by simp [hn], by simp⟩
  | related kind table predicate minCount ih =>
    intro opened n hn
    rcases List.mem_cons.1 hn with rfl | hn
    · exact ⟨[], by simp, by simp⟩
    · obtain ⟨inner, hi, hm⟩ := ih hn
      refine ⟨table :: inner, by simpa using hi, fun l t r hl => ?_⟩
      cases l with
      | nil =>
        obtain ⟨rfl, -⟩ := List.cons.inj hl
        exact ⟨⟨opened, _⟩, self_mem_scopedNodes _ _, by simp, kind, predicate, minCount, rfl⟩
      | cons x l =>
        obtain ⟨hx, hl⟩ := List.cons.inj hl
        obtain ⟨m, hm, ha, h⟩ := hm l t r hl
        exact ⟨m, mem_scopedNodes_related hm, by simpa [hx] using ha, h⟩
  | not e ih =>
    intro opened n hn
    rcases List.mem_cons.1 hn with rfl | hn
    · exact ⟨[], by simp, by simp⟩
    · obtain ⟨inner, hi, hm⟩ := ih hn
      refine ⟨inner, hi, fun l t r hl => ?_⟩
      obtain ⟨m, hm, h⟩ := hm l t r hl
      exact ⟨m, mem_scopedNodes_not hm, h⟩
  | junction kind rules ih =>
    intro opened n hn
    rcases List.mem_cons.1 hn with rfl | hn
    · exact ⟨[], by simp, by simp⟩
    · obtain ⟨e, he, hn⟩ := mem_scopedAll.1 hn
      obtain ⟨inner, hi, hm⟩ := ih e he hn
      refine ⟨inner, hi, fun l t r hl => ?_⟩
      obtain ⟨m, hm, h⟩ := hm l t r hl
      exact ⟨m, mem_scopedNodes_junction he hm, h⟩

/-! ## What a tree refers to, by its parts -/

theorem references_leaf {opened : List String} {e : Expr F} (h : e.isLeaf = true) :
    e.references opened = e.nodePaths.map fun p => ⟨opened, p⟩ := by
  simp [references, scopedNodes_leaf h]

theorem references_related (opened : List String) (kind : RelatedKind) (table : String)
    (predicate : Expr F) (minCount : Nat) :
    (related kind table predicate minCount).references opened =
      predicate.references (opened ++ [table]) := by
  simp [references, scopedNodes, nodePaths]

theorem references_not (opened : List String) (e : Expr F) :
    (Expr.not e).references opened = e.references opened := by
  simp [references, scopedNodes, nodePaths]

theorem references_junction (opened : List String) (kind : Junction) (rules : List (Expr F)) :
    (junction kind rules).references opened = rules.flatMap (references opened) := by
  have h : scopedAll opened rules = rules.flatMap (scopedNodes opened) := by
    induction rules with
    | nil => rfl
    | cons e rest ih => rw [scopedAll, ih, List.flatMap_cons]
  rw [references, scopedNodes, List.flatMap_cons, h, List.flatMap_assoc]
  rfl

theorem mem_references_junction {opened : List String} {kind : Junction} {rules : List (Expr F)}
    {o : Nested PathRef} :
    o ∈ (junction kind rules).references opened ↔ ∃ e ∈ rules, o ∈ e.references opened := by
  rw [references_junction, List.mem_flatMap]

theorem paths_leaf {e : Expr F} (h : e.isLeaf = true) : e.paths = e.nodePaths := by
  rw [← map_references_eq_paths [], references_leaf h]
  simp [Function.comp_def]

theorem paths_related (kind : RelatedKind) (table : String) (predicate : Expr F)
    (minCount : Nat) : (related kind table predicate minCount).paths = predicate.paths := by
  rw [← map_references_eq_paths [], references_related, map_references_eq_paths]

theorem paths_not (e : Expr F) : (Expr.not e).paths = e.paths := by
  rw [← map_references_eq_paths [], references_not, map_references_eq_paths]

theorem mem_paths_junction {kind : Junction} {rules : List (Expr F)} {p : PathRef} :
    p ∈ (junction kind rules).paths ↔ ∃ e ∈ rules, p ∈ e.paths := by
  simp only [← map_references_eq_paths [], List.mem_map, mem_references_junction]
  exact ⟨fun ⟨o, ⟨e, he, ho⟩, hp⟩ => ⟨e, he, o, ho, hp⟩,
    fun ⟨e, he, o, ho, hp⟩ => ⟨o, ⟨e, he, ho⟩, hp⟩⟩

theorem relatedTables_leaf {e : Expr F} (h : e.isLeaf = true) : e.relatedTables = [] := by
  rw [relatedTables, walk_eq_preorder]
  cases e <;> simp_all [isLeaf, preorder]

theorem relatedTables_related (kind : RelatedKind) (table : String) (predicate : Expr F)
    (minCount : Nat) :
    (related kind table predicate minCount).relatedTables = table :: predicate.relatedTables := by
  simp [relatedTables, walk_eq_preorder, preorder]

theorem relatedTables_not (e : Expr F) : (Expr.not e).relatedTables = e.relatedTables := by
  simp [relatedTables, walk_eq_preorder, preorder]

theorem mem_relatedTables_junction {kind : Junction} {rules : List (Expr F)} {name : String} :
    name ∈ (junction kind rules).relatedTables ↔ ∃ e ∈ rules, name ∈ e.relatedTables := by
  have h : (junction kind rules).relatedTables = rules.flatMap relatedTables := by
    simp only [relatedTables, walk_eq_preorder, preorder, List.filterMap_cons]
    induction rules with
    | nil => rfl
    | cons e rest ih =>
      rw [preorderAll, List.filterMap_append, ih, List.flatMap_cons, relatedTables,
        walk_eq_preorder]
  rw [h, List.mem_flatMap]

/-! ## Paths that no related node opens -/

/-- Only the names of the open tables count, not their order. -/
theorem isStray_congr {scopes around : List String} (h : ∀ t, t ∈ scopes ↔ t ∈ around)
    (p : PathRef) : isStray scopes p = isStray around p := by
  have hc : scopes.contains p.table = around.contains p.table := by
    rw [Bool.eq_iff_iff, List.contains_iff_mem, List.contains_iff_mem, h]
  rw [isStray, isStray, hc]

theorem unscopedPaths_leaf {scopes : List String} {e : Expr F} (h : e.isLeaf = true) :
    e.unscopedPaths scopes = e.nodePaths.filter (isStray scopes) := by
  cases e <;> simp_all [isLeaf, unscopedPaths]

/-- **The scoped paths that no related node opens** are, in their order, those references whose
    table is not among the tables around them. -/
theorem unscopedPaths_eq (e : Expr F) : ∀ scopes around, (∀ t, t ∈ scopes ↔ t ∈ around) →
    e.unscopedPaths scopes =
      ((e.references around).filter fun o => isStray o.around o.item).map Nested.item := by
  induction e using treeInduction with
  | literal | function =>
    intro scopes around _
    simp [unscopedPaths, references, scopedNodes, nodePaths]
  | leaf e he =>
    intro scopes around h
    rw [unscopedPaths_leaf he, references_leaf he, List.filter_map, List.map_map,
      List.filter_congr fun p _ => isStray_congr h p]
    simp [Function.comp_def]
  | related kind table predicate minCount ih =>
    intro scopes around h
    rw [unscopedPaths, references_related]
    refine ih _ _ fun t => ?_
    rw [List.mem_cons, List.mem_append, List.mem_singleton, h, or_comm]
  | not e ih =>
    intro scopes around h
    rw [unscopedPaths, references_not]
    exact ih _ _ h
  | junction kind rules ih =>
    intro scopes around h
    rw [unscopedPaths, references_junction]
    induction rules with
    | nil => rfl
    | cons e rest ihr =>
      rw [unscopedAll, List.flatMap_cons, List.filter_append, List.map_append,
        ih e (by simp) _ _ h, ihr fun e he => ih e (by simp [he])]

end Expr

end Clearance
