/-
  What compiling comes to, apart from the limit on the number of nodes.

  * `Expr.clause` is the clause of a tree without functions, with nothing counted or
    recorded;
  * `Run.Reckoning.compileNode`, `compileWithin` and `compile`: what is kept by the steps of runs
    holds of compiling a tree and a rule;
  * `Rule.compile_follows`: compiling a rule follows the clause of its expansion;
  * `Rule.expansion_of_compile`: a rule that compiles has an expansion, whatever function node
    of it a condition would not need.
-/
import Clearance.Filter.Compile
import Clearance.Proofs.Decision.Reckoning

namespace Clearance

open Sql

variable {F : Type}

mutual

/-- The clause of a tree without functions. -/
def Expr.clause (config : Config) (d : Declarations) (actor : Value) (opened : List String) :
    Expr Empty → Result Clause
  | .literal value => .ok (.truth value)
  | .function fn _ => fn.elim
  | .related _ table predicate minCount => do
    let columns ← d.table table
    let owner ← columns.owner
    let p ← predicate.clause config d actor (opened ++ [table])
    return rowsClause owner p minCount
  | .not e => do return (← e.clause config d actor opened).negate
  | .junction kind rules => do
    return junctionClause kind (← Expr.clauses config d actor opened rules)
  | e => leafClause config d actor opened e

/-- The clauses of trees without functions. -/
def Expr.clauses (config : Config) (d : Declarations) (actor : Value) (opened : List String) :
    List (Expr Empty) → Result (List Clause)
  | [] => .ok []
  | e :: rest => do
    let c ← e.clause config d actor opened
    return c :: (← Expr.clauses config d actor opened rest)

end

theorem Expr.clause_leaf {config : Config} {d : Declarations} {actor : Value}
    {opened : List String} {e : Expr Empty} (h : e.isLeaf = true) :
    e.clause config d actor opened = leafClause config d actor opened e := by
  cases e <;> simp_all [Expr.isLeaf, Expr.clause]

theorem Expr.clauses_eq_ok {config : Config} {d : Declarations} {actor : Value}
    {opened : List String} {es : List (Expr Empty)} {cs : List Clause} :
    Expr.clauses config d actor opened es = .ok cs ↔
      List.Forall₂ (fun e c => e.clause config d actor opened = .ok c) es cs := by
  induction es generalizing cs with
  | nil => cases cs <;> simp [Expr.clauses]
  | cons e rest ih =>
    rw [Expr.clauses]
    rcases he : e.clause config d actor opened with err | c
    · cases cs <;> simp [bind, Except.bind, he]
    · rcases hr : Expr.clauses config d actor opened rest with err | cs'
      · cases cs <;> simp [bind, Except.bind, he, ← ih, hr]
      · cases cs <;> simp [bind, Except.bind, pure, Except.pure, he, ← ih, hr]

section

variable {config : Config} {d : Declarations} {actor : Value} {opened : List String} {c : Clause}

theorem Expr.clause_related_eq_ok {kind : RelatedKind} {table : String} {predicate : Expr Empty}
    {minCount : Nat} :
    (Expr.related kind table predicate minCount).clause config d actor opened = .ok c ↔
      ∃ columns owner p, d.table table = .ok columns ∧ columns.owner = .ok owner ∧
        predicate.clause config d actor (opened ++ [table]) = .ok p ∧
        rowsClause owner p minCount = c := by
  rw [Expr.clause]
  constructor
  · intro h
    obtain ⟨columns, ht, h⟩ := Result.bind_eq_ok.1 h
    obtain ⟨owner, ho, h⟩ := Result.bind_eq_ok.1 h
    obtain ⟨p, hp, h⟩ := Result.bind_eq_ok.1 h
    exact ⟨columns, owner, p, ht, ho, hp, Except.ok.inj h⟩
  · rintro ⟨columns, owner, p, ht, ho, hp, rfl⟩
    rw [ht, hp]
    show (do let owner ← columns.owner; return rowsClause owner p minCount) = _
    rw [ho]
    rfl

theorem Expr.clause_not_eq_ok {e : Expr Empty} :
    (Expr.not e).clause config d actor opened = .ok c ↔
      ∃ p, e.clause config d actor opened = .ok p ∧ p.negate = c := by
  rw [Expr.clause, Result.bind_eq_ok]
  exact exists_congr fun p => and_congr_right fun _ => ⟨Except.ok.inj, congrArg Except.ok⟩

theorem Expr.clause_junction_eq_ok {kind : Junction} {rules : List (Expr Empty)} :
    (Expr.junction kind rules).clause config d actor opened = .ok c ↔
      ∃ cs, Expr.clauses config d actor opened rules = .ok cs ∧ junctionClause kind cs = c := by
  rw [Expr.clause, Result.bind_eq_ok]
  exact exists_congr fun cs => and_congr_right fun _ => ⟨Except.ok.inj, congrArg Except.ok⟩

end

/-- Each of some trees has its clause among their clauses. -/
theorem Expr.exists_clause {config : Config} {d : Declarations} {actor : Value}
    {opened : List String} {es : List (Expr Empty)} {cs : List Clause}
    (h : Expr.clauses config d actor opened es = .ok cs) {e : Expr Empty} (he : e ∈ es) :
    ∃ c ∈ cs, e.clause config d actor opened = .ok c :=
  exists_of_forall₂ (clauses_eq_ok.1 h) he

/-- Each of the clauses of some trees is the clause of one of them. -/
theorem Expr.exists_of_mem_clauses {config : Config} {d : Declarations} {actor : Value}
    {opened : List String} {es : List (Expr Empty)} {cs : List Clause}
    (h : Expr.clauses config d actor opened es = .ok cs) {c : Clause} (hc : c ∈ cs) :
    ∃ e ∈ es, e.clause config d actor opened = .ok c :=
  exists_of_forall₂ (clauses_eq_ok.1 h).flip hc

/-! ## Runs -/

/-- A leaf is put for itself, and compiled in the same way. -/
theorem leafClause_substitute (config : Config) (d : Declarations) (actor : Value)
    (opened : List String) {put : F → String → Option (Expr Empty)} {e : Expr F} {t : Expr Empty}
    (he : e.isLeaf = true) (h : e.substitute put = some t) :
    t.isLeaf = true ∧
      leafClause config d actor opened t = leafClause config d actor opened e := by
  cases e <;> simp_all only [Expr.isLeaf, Expr.substitute, Option.some.injEq, Bool.false_eq_true] <;>
    (subst h; exact ⟨rfl, rfl⟩)

theorem compileNode_leaf {config : Config} {d : Declarations} {actor : Value}
    {opened : List String} {onFunction : OnFunction F (List String → Run F Clause)} {e : Expr F}
    (h : e.isLeaf = true) : compileNode config d actor onFunction opened e = (do
      Run.charge config
      compileLeaf config d actor opened e) := by
  cases e <;> simp_all [Expr.isLeaf, compileNode]

namespace Run.Reckoning

variable {config : Config} {R : Nat → (α : Type) → Run F α → Result α → Prop} {d : Declarations}
  {actor : Value} {put : F → String → Option (Expr Empty)} {inner : F → String → Nat}
  {onFunction : OnFunction F (List String → Run F Clause)}

theorem compileLeaf (h : Reckoning config (fun _ => True) R) (opened : List String) (e : Expr F) :
    R 0 Clause (compileLeaf config d actor opened e) (leafClause config d actor opened e) := by
  have hp : R 0 Unit (recordPattern config e : Run F Unit) (.ok ()) := by
    cases e <;> first | exact h.record _ trivial | exact h.pure ()
  have hleaf : R 0 Clause (Clearance.compileLeaf config d actor opened e)
      (leafClause config d actor opened e >>= Pure.pure) :=
    h.bind (n := 0) (m := 0) (h.ofResult _) fun c _ =>
      h.bind (n := 0) (m := 0) (g := fun _ => .ok c) hp fun _ _ => h.pure c
  rwa [bind_pure] at hleaf

theorem compileAll (h : Reckoning config (fun _ => True) R) {opened : List String}
    {es : List (Expr F)} {ts : List (Expr Empty)}
    (he : List.Forall₂ (fun e t => R (e.weight inner) Clause
      (compileNode config d actor onFunction opened e) (t.clause config d actor opened)) es ts) :
    R (Expr.weightAll inner es) (List Clause) (compileAll config d actor onFunction opened es)
      (Expr.clauses config d actor opened ts) := by
  induction he with
  | nil => exact h.pure _
  | cons he _ ih =>
    rw [Clearance.compileAll, Expr.clauses, Expr.weightAll]
    exact h.bind he fun c _ => h.bind (m := 0) ih fun cs _ => h.pure _

/-- **Compiling a tree, beside the tree that is put for it.**  All nodes are visited, each once, so
    that their number is exact. -/
theorem compileNode (h : Reckoning config (fun _ => True) R)
    (hf : ∀ fn description t, put fn description = some t → ∀ opened,
      R (inner fn description) Clause (onFunction fn description opened)
        (t.clause config d actor opened))
    (e : Expr F) : ∀ t, e.substitute put = some t → ∀ opened,
      R (e.weight inner) Clause (compileNode config d actor onFunction opened e)
        (t.clause config d actor opened) := by
  induction e using Expr.treeInduction with
  | literal value =>
    intro t ht opened
    cases ht
    exact h.charged (h.pure _)
  | leaf e he =>
    intro t ht opened
    obtain ⟨ht, hd⟩ := leafClause_substitute config d actor opened he ht
    rw [compileNode_leaf he, Expr.clause_leaf ht, hd, Expr.weight_leaf he]
    exact h.charged (h.compileLeaf opened e)
  | function fn description => exact fun t ht opened => h.charged (hf fn description t ht _)
  | related kind table predicate minCount ih =>
    intro t ht opened
    obtain ⟨p, hp, rfl⟩ := Option.map_eq_some_iff.1 ht
    rw [Clearance.compileNode, Expr.clause, Expr.weight, ← Nat.zero_add (predicate.weight inner)]
    refine h.charged (h.bind (h.ofResult _) fun columns _ => ?_)
    rw [← Nat.zero_add (predicate.weight inner)]
    exact h.bind (h.ofResult _) fun owner _ => h.bind (m := 0) (ih p hp _) fun c _ => h.pure _
  | not e ih =>
    intro t ht opened
    obtain ⟨p, hp, rfl⟩ := Option.map_eq_some_iff.1 ht
    rw [Clearance.compileNode, Expr.clause, Expr.weight]
    exact h.charged (h.bind (m := 0) (ih p hp _) fun c _ => h.pure _)
  | junction kind rules ih =>
    intro t ht opened
    obtain ⟨ts, hts, rfl⟩ := Option.map_eq_some_iff.1 ht
    rw [Clearance.compileNode, Expr.clause, Expr.weight]
    refine h.charged (h.bind (m := 0) (h.compileAll ?_) fun cs _ => h.pure _)
    exact ((List.forall₂_and_left _ _).2 ⟨ih, Expr.substituteAll_eq_some.1 hts⟩).imp
      fun e t h => h.1 t h.2 opened

/-- With a number of calls allowed along a path, a tree is compiled beside its expansion. -/
theorem compileWithin (h : Reckoning config (fun _ => True) R) {call : Meaning F}
    (remaining : Nat) : ∀ e t, expandWithin call actor remaining e = some t → ∀ opened,
      R (weightWithin call actor remaining e) Clause
        (compileWithin config call d actor remaining opened e)
        (t.clause config d actor opened) := by
  induction remaining with
  | zero => exact fun e t ht => h.compileNode (fun _ _ _ h => by cases h) e t ht
  | succ remaining ih =>
    intro e t ht
    refine h.compileNode (fun fn description t ht opened => ?_) e t ht
    obtain ⟨e', he, ht⟩ := Option.bind_eq_some_iff.1 ht
    rw [he, ← Nat.zero_add (Option.getD _ _)]
    exact h.bind (g := fun e => t.clause config d actor opened) (h.expand he trivial) fun a ha => by
      cases ha; exact ih e' t ht opened

/-- A rule is compiled beside its expansion. -/
theorem compile (h : Reckoning config (fun _ => True) R) {call : Meaning F} {r : Rule F}
    {t : Expr Empty} (ht : r.expansion config call actor = some t) :
    R (r.weight config call actor) Clause (r.compile config call d actor)
      (t.clause config d actor []) := by
  obtain ⟨e, he, ht⟩ := Rule.expansion_eq_some.1 ht
  rw [Rule.compile, Rule.weight_eq he, he, ← Nat.zero_add (weightWithin _ _ _ _)]
  exact h.bind (g := fun _ => t.clause config d actor []) (h.ofResult (.ok e)) fun a ha => by
    cases ha; exact h.compileWithin _ e t ht []

end Run.Reckoning

/-- Compiling a rule follows the clause of its expansion. -/
theorem Rule.compile_follows {config : Config} {call : Meaning F} {d : Declarations}
    {actor : Value} {r : Rule F} {t : Expr Empty} (h : r.expansion config call actor = some t) :
    (r.compile config call d actor).Follows config (t.clause config d actor []) :=
  Run.Follows.reckoning.compile h

/-! ## Expansions of what compiles -/

/-- All trees that compile are such that trees are put for them. -/
theorem substituteAll_of_compileAll {config : Config} {d : Declarations} {actor : Value}
    {opened : List String} {onFunction : OnFunction F (List String → Run F Clause)}
    {put : F → String → Option (Expr Empty)} {es : List (Expr F)}
    (h : ∀ e ∈ es, ∀ t c, ((compileNode config d actor onFunction opened e).outcomeFrom t).1 = .ok c →
      ∃ e', e.substitute put = some e') :
    ∀ t cs, ((compileAll config d actor onFunction opened es).outcomeFrom t).1 = .ok cs →
      ∃ es', Expr.substituteAll put es = some es' := by
  induction es with
  | nil => exact fun _ _ _ => ⟨[], rfl⟩
  | cons e rest ih =>
    intro t cs hc
    rw [compileAll] at hc
    obtain ⟨c, t', he, hc⟩ := Run.outcomeFrom_bind_ok hc
    obtain ⟨cs', t'', hr, -⟩ := Run.outcomeFrom_bind_ok hc
    obtain ⟨e', he'⟩ := h e (by simp) t c he
    obtain ⟨es', hes⟩ := ih (fun e he => h e (by simp [he])) t' cs' hr
    exact ⟨e' :: es', by simp [Expr.substituteAll, he', hes]⟩

/-- A tree that compiles visits all its functions, so that a tree can be put for it. -/
theorem substitute_of_compileNode {config : Config} {d : Declarations} {actor : Value}
    {onFunction : OnFunction F (List String → Run F Clause)}
    {put : F → String → Option (Expr Empty)}
    (hf : ∀ fn description opened t c,
      ((onFunction fn description opened).outcomeFrom t).1 = .ok c → ∃ e, put fn description = some e)
    (e : Expr F) : ∀ opened t c,
      ((compileNode config d actor onFunction opened e).outcomeFrom t).1 = .ok c →
        ∃ e', e.substitute put = some e' := by
  induction e using Expr.treeInduction with
  | literal value => exact fun _ _ _ _ => ⟨_, rfl⟩
  | leaf e he =>
    intro opened t c _
    cases e <;> first | exact ⟨_, rfl⟩ | cases he
  | function fn description =>
    intro opened t c h
    rw [compileNode] at h
    obtain ⟨_, t', -, h⟩ := Run.outcomeFrom_bind_ok h
    exact hf fn description opened t' c h
  | related kind table predicate minCount ih =>
    intro opened t c h
    rw [compileNode] at h
    obtain ⟨_, _, -, h⟩ := Run.outcomeFrom_bind_ok h
    obtain ⟨_, _, -, h⟩ := Run.outcomeFrom_bind_ok h
    obtain ⟨_, _, -, h⟩ := Run.outcomeFrom_bind_ok h
    obtain ⟨p, _, hp, -⟩ := Run.outcomeFrom_bind_ok h
    obtain ⟨e', he'⟩ := ih _ _ _ hp
    exact ⟨_, by rw [Expr.substitute, he']; rfl⟩
  | not e ih =>
    intro opened t c h
    rw [compileNode] at h
    obtain ⟨_, _, -, h⟩ := Run.outcomeFrom_bind_ok h
    obtain ⟨p, _, hp, -⟩ := Run.outcomeFrom_bind_ok h
    obtain ⟨e', he'⟩ := ih _ _ _ hp
    exact ⟨_, by rw [Expr.substitute, he']; rfl⟩
  | junction kind rules ih =>
    intro opened t c h
    rw [compileNode] at h
    obtain ⟨_, _, -, h⟩ := Run.outcomeFrom_bind_ok h
    obtain ⟨cs, _, hcs, -⟩ := Run.outcomeFrom_bind_ok h
    obtain ⟨es, hes⟩ := substituteAll_of_compileAll (fun e he => ih e he opened) _ _ hcs
    exact ⟨_, by rw [Expr.substitute, hes]; rfl⟩

/-- A tree that compiles has an expansion. -/
theorem expandWithin_of_compileWithin {config : Config} {call : Meaning F} {d : Declarations}
    {actor : Value} (remaining : Nat) : ∀ e opened t c,
      ((compileWithin config call d actor remaining opened e).outcomeFrom t).1 = .ok c →
        ∃ e', expandWithin call actor remaining e = some e' := by
  induction remaining with
  | zero => exact substitute_of_compileNode fun fn description opened t c h => by cases h
  | succ remaining ih =>
    refine substitute_of_compileNode fun fn description opened t c h => ?_
    obtain ⟨e, t', he, h⟩ := Run.outcomeFrom_bind_ok h
    obtain ⟨e', he'⟩ := ih e opened t' c h
    exact ⟨e', Option.bind_eq_some_iff.2 ⟨e, returned?_of_expand he, he'⟩⟩

/-- A rule that compiles has an expansion, and its filter is the clause of the expansion. -/
theorem Rule.expansion_of_compile {config : Config} {call : Meaning F} {d : Declarations}
    {actor : Value} {r : Rule F} {c : Clause}
    (h : (r.compile config call d actor).result = .ok c) :
    ∃ e, r.expansion config call actor = some e ∧ e.clause config d actor [] = .ok c := by
  have h' := h
  rw [Run.result_eq, Rule.compile] at h'
  obtain ⟨e, t, he, h'⟩ := Run.outcomeFrom_bind_ok h'
  rw [Run.outcomeFrom_ofResult] at he
  obtain ⟨e', he'⟩ := expandWithin_of_compileWithin _ e [] t c h'
  have hx := Rule.expansion_eq_some.2 ⟨e, he, he'⟩
  exact ⟨e', hx, (Rule.compile_follows hx).eq_ok h⟩

end Clearance
