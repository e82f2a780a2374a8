/-
  Trees that hold no function node, whatever functions there are.

  * `Expr.plain?` is such a tree as a tree without functions, `none` for all others
    (`Expr.exists_plain`); it is the expansion of the tree (`expandWithin_of_plain`);
  * `Expr.scopedNodes_plain`: the two trees have the same nodes with the same tables open around
    them, and so refer to the same paths and related tables.
-/
import Clearance.Proofs.Rule.Outline

namespace Clearance

variable {F : Type}

namespace Expr

/-- A tree that holds no function node, as a tree without functions. -/
def plain? (e : Expr F) : Option (Expr Empty) := e.substitute fun _ _ => none

/-! ## Trees without function nodes -/

theorem hasFunction_function (fn : F) (description : String) :
    (function fn description).hasFunction = true := by
  simp [hasFunction, walk_eq_preorder, preorder]

theorem hasFunction_related (kind : RelatedKind) (table : String) (predicate : Expr F)
    (minCount : Nat) :
    (related kind table predicate minCount).hasFunction = predicate.hasFunction := by
  simp [hasFunction, walk_eq_preorder, preorder]

theorem hasFunction_not (e : Expr F) : (Expr.not e).hasFunction = e.hasFunction := by
  simp [hasFunction, walk_eq_preorder, preorder]

theorem hasFunction_junction {kind : Junction} {rules : List (Expr F)} :
    (junction kind rules).hasFunction = false ↔ ∀ e ∈ rules, e.hasFunction = false := by
  simp only [hasFunction, walk_eq_preorder, preorder, List.any_cons, Bool.false_or,
    List.any_eq_false, mem_preorderAll]
  constructor
  · intro h e he n hn
    exact h n ⟨e, he, hn⟩
  · rintro h n ⟨e, he, hn⟩
    exact h e he n hn

/-- A tree that holds no function node is a tree without functions. -/
theorem exists_plain (e : Expr F) (h : e.hasFunction = false) : ∃ t, e.plain? = some t := by
  unfold plain?
  induction e using treeInduction with
  | literal value => exact ⟨_, rfl⟩
  | leaf e he => cases e <;> first | exact ⟨_, rfl⟩ | cases he
  | function fn description =>
    rw [hasFunction_function] at h
    cases h
  | related kind table predicate minCount ih =>
    rw [hasFunction_related] at h
    obtain ⟨p, hp⟩ := ih h
    exact ⟨_, by rw [substitute, hp]; rfl⟩
  | not e ih =>
    rw [hasFunction_not] at h
    obtain ⟨t, ht⟩ := ih h
    exact ⟨_, by rw [substitute, ht]; rfl⟩
  | junction kind rules ih =>
    rw [hasFunction_junction] at h
    obtain ⟨ts, hts⟩ := exists_forall₂ fun e he => ih e he (h e he)
    exact ⟨_, by rw [substitute, substituteAll_eq_some.2 hts]; rfl⟩

/-! ## Nodes -/

/-- The same tables are open around two nodes, and the one is the other without functions. -/
def SamePlace (n : Nested (Expr F)) (m : Nested (Expr Empty)) : Prop :=
  n.around = m.around ∧ n.item.plain? = some m.item

theorem isLeaf_plain {e : Expr F} {t : Expr Empty} (he : e.isLeaf = true)
    (h : e.plain? = some t) : t.isLeaf = true := by
  cases e <;> first | (cases h; rfl) | cases he

theorem nodePaths_plain {e : Expr F} {t : Expr Empty} (h : e.plain? = some t) :
    e.nodePaths = t.nodePaths := by
  cases e with
  | related | not | junction => obtain ⟨_, -, rfl⟩ := Option.map_eq_some_iff.1 h; rfl
  | _ => cases h <;> rfl

theorem scopedAll_plain {around : List String} {es : List (Expr F)} {ts : List (Expr Empty)}
    (h : List.Forall₂ (fun e t =>
      List.Forall₂ SamePlace (e.scopedNodes around) (t.scopedNodes around)) es ts) :
    List.Forall₂ SamePlace (scopedAll around es) (scopedAll around ts) := by
  induction h with
  | nil => exact .nil
  | cons he _ ih => exact List.rel_append he ih

/-- **The nodes of a tree that holds no function node** are those of the tree without
    functions. -/
theorem scopedNodes_plain (e : Expr F) : ∀ t around, e.plain? = some t →
    List.Forall₂ SamePlace (e.scopedNodes around) (t.scopedNodes around) := by
  induction e using treeInduction with
  | literal value =>
    intro t around h
    cases h
    exact .cons ⟨rfl, rfl⟩ .nil
  | leaf e he =>
    intro t around h
    rw [scopedNodes_leaf he, scopedNodes_leaf (isLeaf_plain he h)]
    exact .cons ⟨rfl, h⟩ .nil
  | function fn description =>
    intro t around h
    cases h
  | related kind table predicate minCount ih =>
    intro t around h
    have hself := h
    obtain ⟨p, hp, rfl⟩ := Option.map_eq_some_iff.1 h
    exact .cons ⟨rfl, hself⟩ (ih p _ hp)
  | not e ih =>
    intro t around h
    have hself := h
    obtain ⟨t, ht, rfl⟩ := Option.map_eq_some_iff.1 h
    exact .cons ⟨rfl, hself⟩ (ih t _ ht)
  | junction kind rules ih =>
    intro t around h
    have hself := h
    obtain ⟨ts, hts, rfl⟩ := Option.map_eq_some_iff.1 h
    have hparts : List.Forall₂ (fun e t =>
        List.Forall₂ SamePlace (e.scopedNodes around) (t.scopedNodes around)) rules ts :=
      ((List.forall₂_and_left _ _).2 ⟨ih, substituteAll_eq_some.1 hts⟩).imp
        fun e t he => he.1 t around he.2
    exact .cons ⟨rfl, hself⟩ (scopedAll_plain hparts)

/-! ## What the tree refers to -/

theorem references_plain {e : Expr F} {t : Expr Empty} (h : e.plain? = some t)
    (around : List String) : e.references around = t.references around := by
  have hns := e.scopedNodes_plain t around h
  unfold references
  generalize e.scopedNodes around = ns, t.scopedNodes around = ms at hns
  induction hns with
  | nil => rfl
  | cons hn _ ih =>
    rw [List.flatMap_cons, List.flatMap_cons, ih, nodePaths_plain hn.2, hn.1]

theorem relatedTables_plain {e : Expr F} {t : Expr Empty} (h : e.plain? = some t) :
    e.relatedTables = t.relatedTables := by
  have hns := e.scopedNodes_plain t [] h
  unfold relatedTables
  rw [← map_scopedNodes_eq_walk [], ← map_scopedNodes_eq_walk []]
  generalize e.scopedNodes [] = ns, t.scopedNodes [] = ms at hns
  induction hns with
  | nil => rfl
  | @cons n m _ _ hn _ ih =>
    obtain ⟨around, e⟩ := n
    obtain ⟨around', t⟩ := m
    have hitem : e.plain? = some t := hn.2
    rw [List.map_cons, List.map_cons, List.filterMap_cons, List.filterMap_cons, ih]
    cases e with
    | related | not | junction => obtain ⟨_, -, rfl⟩ := Option.map_eq_some_iff.1 hitem; rfl
    | _ => cases hitem <;> rfl

/-- A node of the tree without functions that tests columns is one of the tree. -/
theorem exists_mem_walk_of_plain {e : Expr F} {t : Expr Empty} (h : e.plain? = some t)
    {m : Expr Empty} (hm : m ∈ t.walk) : ∃ n ∈ e.walk, n.plain? = some m := by
  rw [← map_scopedNodes_eq_walk [], List.mem_map] at hm
  obtain ⟨m, hm, rfl⟩ := hm
  obtain ⟨n, hn, hnm⟩ := exists_of_forall₂ (e.scopedNodes_plain t [] h).flip hm
  refine ⟨n.item, ?_, hnm.2⟩
  rw [← map_scopedNodes_eq_walk []]
  exact List.mem_map_of_mem hn

end Expr

/-- A tree that holds no function node has itself as its expansion. -/
theorem expandWithin_of_plain {e : Expr F} {t : Expr Empty} (h : e.plain? = some t)
    (call : Meaning F) (actor : Value) (n : Nat) : expandWithin call actor n e = some t :=
  expandWithin_mono n.zero_le h

end Clearance
