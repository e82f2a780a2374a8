/-
  Trees without functions, and what a rule is expanded to.

  A tree without functions is an `Expr Empty`: there is no function that a node of it could
  hold.  A rule is expanded by putting, for each function node, the expansion of the tree that
  the function returns for the actor; a truth value counts as a constant.

  * `Expr.substitute` puts trees for the function nodes of a tree; `expandWithin` allows a
    number of calls along a path, more of which change nothing (`expandWithin_mono`), and
    `Rule.expansion` is the expansion of a rule under a configuration, `none` if a function
    raises, returns no rule or is nested too deeply.
-/
import Mathlib.Data.List.Forall2
import Clearance.Decision.Run
import Clearance.Proofs.Rule.Tree

namespace Clearance

variable {F : Type}

/-- Each of some things is related to one of those that they are related to in order. -/
theorem exists_of_forall₂ {α β : Type} {R : α → β → Prop} {as : List α} {bs : List β}
    (h : List.Forall₂ R as bs) {a : α} (ha : a ∈ as) : ∃ b ∈ bs, R a b := by
  induction h with
  | nil => cases ha
  | @cons a' b as bs hab _ ih =>
    rcases List.mem_cons.1 ha with rfl | ha
    · exact ⟨b, by simp, hab⟩
    · obtain ⟨b', hb', h⟩ := ih ha
      exact ⟨b', by simp [hb'], h⟩

/-- Things of which each is related to something are related to things one by one. -/
theorem exists_forall₂ {α β : Type} {R : α → β → Prop} {as : List α} (h : ∀ a ∈ as, ∃ b, R a b) :
    ∃ bs, List.Forall₂ R as bs := by
  induction as with
  | nil => exact ⟨[], .nil⟩
  | cons a as ih =>
    obtain ⟨b, hb⟩ := h a (by simp)
    obtain ⟨bs, hbs⟩ := ih fun a ha => h a (by simp [ha])
    exact ⟨b :: bs, .cons hb hbs⟩

namespace Expr

mutual

/-- The tree with trees without functions in the place of its function nodes. -/
def substitute (put : F → String → Option (Expr Empty)) : Expr F → Option (Expr Empty)
  | .literal value => some (.literal value)
  | .comparison op left right => some (.comparison op left right)
  | .inArray path values => some (.inArray path values)
  | .nullCheck test path => some (.nullCheck test path)
  | .textMatch test path text => some (.textMatch test path text)
  | .between path min max => some (.between path min max)
  | .matches path pattern flags => some (.matches path pattern flags)
  | .related kind table predicate minCount =>
    (predicate.substitute put).map fun p => .related kind table p minCount
  | .tenantScoped path => some (.tenantScoped path)
  | .belongsToTenant actorValue path => some (.belongsToTenant actorValue path)
  | .not e => (e.substitute put).map .not
  | .junction kind rules => (substituteAll put rules).map (.junction kind)
  | .function fn description => put fn description

/-- The trees with trees without functions in the place of their function nodes. -/
def substituteAll (put : F → String → Option (Expr Empty)) :
    List (Expr F) → Option (List (Expr Empty))
  | [] => some []
  | e :: rest => do return (← e.substitute put) :: (← substituteAll put rest)

end

theorem substituteAll_eq_some {put : F → String → Option (Expr Empty)} {es : List (Expr F)}
    {ts : List (Expr Empty)} :
    substituteAll put es = some ts ↔ List.Forall₂ (fun e t => e.substitute put = some t) es ts := by
  induction es generalizing ts with
  | nil => cases ts <;> simp [substituteAll]
  | cons e rest ih =>
    cases ts with
    | nil => simp [substituteAll, Option.bind_eq_some_iff]
    | cons t ts => simp [substituteAll, Option.bind_eq_some_iff, ih]

end Expr

/-- Where no less is put for function nodes, the same is put for trees. -/
theorem Expr.substitute_mono {put put' : F → String → Option (Expr Empty)}
    (h : ∀ fn description t, put fn description = some t → put' fn description = some t)
    (e : Expr F) : ∀ t, e.substitute put = some t → e.substitute put' = some t := by
  induction e using treeInduction with
  | literal value => exact fun _ ht => ht
  | leaf e he => intro t ht; cases e <;> first | exact ht | cases he
  | function fn description => exact h fn description
  | related kind table predicate minCount ih =>
    intro t ht
    obtain ⟨p, hp, rfl⟩ := Option.map_eq_some_iff.1 ht
    rw [substitute, ih p hp]
    rfl
  | not e ih =>
    intro t ht
    obtain ⟨t, he, rfl⟩ := Option.map_eq_some_iff.1 ht
    rw [substitute, ih t he]
    rfl
  | junction kind rules ih =>
    intro t ht
    obtain ⟨ts, hts, rfl⟩ := Option.map_eq_some_iff.1 ht
    rw [substitute, substituteAll_eq_some.2
      (((List.forall₂_and_left _ _).2 ⟨ih, substituteAll_eq_some.1 hts⟩).imp
        fun e t h => h.1 t h.2)]
    rfl

/-- There is nothing that a function could return, where there are none. -/
def noFunctions : Meaning Empty := fun fn _ => fn.elim

/-- What a function returns for an actor, as an expression. -/
def returned? (call : Meaning F) (actor : Value) (fn : F) (description : String) :
    Option (Expr F) :=
  match call fn actor with
  | .ok rule => (Run.resultExpr description rule).toOption
  | .error _ => none

/-- The expansion of a tree with a number of calls allowed along a path. -/
def expandWithin (call : Meaning F) (actor : Value) : Nat → Expr F → Option (Expr Empty)
  | 0 => Expr.substitute fun _ _ => none
  | remaining + 1 => Expr.substitute fun fn description =>
      (returned? call actor fn description).bind (expandWithin call actor remaining)

/-- The expansion of a rule for an actor. -/
def Rule.expansion (config : Config) (call : Meaning F) (actor : Value) (r : Rule F) :
    Option (Expr Empty) :=
  r.toExpr.toOption.bind (expandWithin call actor config.maxFunctionDepth)

theorem returned?_eq_some {call : Meaning F} {actor : Value} {fn : F} {description : String}
    {e : Expr F} : returned? call actor fn description = some e ↔
      ∃ rule, call fn actor = .ok rule ∧ Run.resultExpr description rule = .ok e := by
  unfold returned?
  cases call fn actor with
  | error err => simp
  | ok rule => cases h : Run.resultExpr description rule <;> simp [Except.toOption, h]

/-- With more calls allowed along a path, a tree has the same expansion. -/
theorem expandWithin_mono {call : Meaning F} {actor : Value} {n m : Nat} (hnm : n ≤ m) {e : Expr F}
    {t : Expr Empty} (h : expandWithin call actor n e = some t) :
    expandWithin call actor m e = some t := by
  induction n generalizing m e t with
  | zero => cases m <;> exact Expr.substitute_mono (fun _ _ _ h => by cases h) e t h
  | succ n ih =>
    obtain ⟨m, rfl⟩ := Nat.exists_eq_add_of_lt hnm
    refine Expr.substitute_mono (fun fn description t ht => ?_) e t h
    obtain ⟨e, he, ht⟩ := Option.bind_eq_some_iff.1 ht
    exact Option.bind_eq_some_iff.2 ⟨e, he, ih (Nat.le_add_right n m) ht⟩

/-- A tree without functions is its own expansion. -/
theorem expandWithin_empty (call : Meaning Empty) (actor : Value) (n : Nat) (e : Expr Empty) :
    expandWithin call actor n e = some e := by
  refine expandWithin_mono n.zero_le ?_
  rw [expandWithin]
  induction e using Expr.treeInduction with
  | literal value => rfl
  | leaf e he => cases e <;> first | rfl | cases he
  | function fn => exact fn.elim
  | related kind table predicate minCount ih => rw [Expr.substitute, ih]; rfl
  | not e ih => rw [Expr.substitute, ih]; rfl
  | junction kind rules ih =>
    rw [Expr.substitute, Expr.substituteAll_eq_some.2 (List.forall₂_same.2 ih)]
    rfl

theorem Rule.expansion_eq_some {config : Config} {call : Meaning F} {actor : Value} {r : Rule F}
    {t : Expr Empty} : r.expansion config call actor = some t ↔
      ∃ e, r.toExpr = .ok e ∧ expandWithin call actor config.maxFunctionDepth e = some t := by
  unfold Rule.expansion
  cases h : r.toExpr <;> simp [Except.toOption]

theorem Rule.expansion_expr (config : Config) (actor : Value) (t : Expr Empty) :
    (Rule.expr t).expansion config noFunctions actor = some t :=
  Rule.expansion_eq_some.2 ⟨t, rfl, expandWithin_empty _ _ _ t⟩

end Clearance
