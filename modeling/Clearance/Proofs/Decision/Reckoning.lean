/-
  What a run comes to, and what it costs.

  Deciding and compiling are put together from few steps: a node is charged, something is
  recorded, something may fail, and one run follows another.  Whatever can be said of the steps
  and is kept in sequences can be said of the whole run beside the result of the tree without
  functions that the rule stands for: what the run gives, how many nodes it charges, what it
  records.

  * `Expr.weight` counts the nodes of a tree with those of what its functions return,
    `weightWithin` and `Rule.weight` allow a number of calls along a path;
  * `Run.Reckoning` lists what a relation of runs with results and numbers of nodes must respect,
    and the events that it admits; `Run.IsCounted` says for which trees deciding can be bounded;
  * `Run.Reckoning.evaluateNode`, `evaluateWithin` and `evaluate`: such a relation holds of
    deciding a tree and a rule;
  * `Rule.evaluate_follows`: deciding a rule follows the decision of its expansion.
-/
import Clearance.Proofs.Decision.Outcome

namespace Clearance

variable {F : Type}

/-! ## Nodes of what a rule stands for -/

mutual

/-- The number of nodes of a tree; a function node counts in addition to the nodes that are
    counted for what it returns. -/
def Expr.weight (inner : F → String → Nat) : Expr F → Nat
  | .related _ _ predicate _ => predicate.weight inner + 1
  | .not e => e.weight inner + 1
  | .junction _ rules => Expr.weightAll inner rules + 1
  | .function fn description => inner fn description + 1
  | _ => 1

/-- The number of nodes of some trees. -/
def Expr.weightAll (inner : F → String → Nat) : List (Expr F) → Nat
  | [] => 0
  | e :: rest => e.weight inner + Expr.weightAll inner rest

end

/-- The number of nodes of a tree and of all that its functions return, with a number of calls
    allowed along a path. -/
def weightWithin (call : Meaning F) (actor : Value) : Nat → Expr F → Nat
  | 0 => Expr.weight fun _ _ => 0
  | remaining + 1 => Expr.weight fun fn description =>
      ((returned? call actor fn description).map (weightWithin call actor remaining)).getD 0

/-- The number of nodes of a rule and of all that its functions return. -/
def Rule.weight (config : Config) (call : Meaning F) (actor : Value) (r : Rule F) : Nat :=
  (r.toExpr.toOption.map (weightWithin call actor config.maxFunctionDepth)).getD 0

theorem Expr.weight_leaf {inner : F → String → Nat} {e : Expr F} (h : e.isLeaf = true) :
    e.weight inner = 1 := by
  cases e <;> simp_all [isLeaf, weight]

theorem Rule.weight_eq {config : Config} {call : Meaning F} {actor : Value} {r : Rule F}
    {e : Expr F} (h : r.toExpr = .ok e) :
    r.weight config call actor = weightWithin call actor config.maxFunctionDepth e := by
  rw [Rule.weight, h]
  rfl

/-! ## Relations that are kept -/

/-- A relation of runs with the results that they come to and with numbers of nodes, which the
    steps of runs respect and which is kept as one run follows another.  `admits` tells the events
    that may be recorded. -/
structure Run.Reckoning (config : Config) (admits : Event F → Prop)
    (R : Nat → (α : Type) → Run F α → Result α → Prop) : Prop where
  ofResult : ∀ {α} (r : Result α), R 0 α (Run.ofResult r) r
  record : ∀ event, admits event → R 0 Unit (Run.record event) (.ok ())
  charge : R 1 Unit (Run.charge config) (.ok ())
  bind : ∀ {n m : Nat} {α β} {run : Run F α} {r : Result α} {f : α → Run F β} {g : α → Result β},
    R n α run r → (∀ a, r = .ok a → R m β (f a) (g a)) → R (n + m) β (run >>= f) (r >>= g)

/-- The numbers of nodes are bounds. -/
def Run.IsBound (R : Nat → (α : Type) → Run F α → Result α → Prop) : Prop :=
  ∀ ⦃n m α run r⦄, n ≤ m → R n α run r → R m α run r

/-- The numbers of nodes do not matter. -/
def Run.IsFree (R : Nat → (α : Type) → Run F α → Result α → Prop) : Prop :=
  ∀ ⦃n m α run r⦄, R n α run r → R m α run r

/-- What deciding a tree charges can be told beforehand, as it visits no rows, or does not matter. -/
def Run.IsCounted (R : Nat → (α : Type) → Run F α → Result α → Prop) (t : Expr Empty) : Prop :=
  t.relatedTables = [] ∨ IsFree R

namespace Run

variable {R : Nat → (α : Type) → Run F α → Result α → Prop}

theorem IsCounted.of_related {kind : RelatedKind} {table : String} {p : Expr Empty} {minCount : Nat}
    (h : IsCounted R (.related kind table p minCount)) : IsFree R := by
  rcases h with h | h
  · rw [Expr.relatedTables_related] at h
    cases h
  · exact h

theorem IsCounted.of_not {t : Expr Empty} (h : IsCounted R (.not t)) : IsCounted R t :=
  h.imp_left fun h => by rwa [Expr.relatedTables_not] at h

theorem IsCounted.of_junction {kind : Junction} {ts : List (Expr Empty)}
    (h : IsCounted R (.junction kind ts)) : ∀ t ∈ ts, IsCounted R t := by
  refine fun t ht => h.imp_left fun h => List.eq_nil_iff_forall_not_mem.2 fun name hn => ?_
  exact List.eq_nil_iff_forall_not_mem.1 h name (Expr.mem_relatedTables_junction.2 ⟨t, ht, hn⟩)

namespace Reckoning

variable {config : Config} {admits : Event F → Prop}

theorem pure (h : Reckoning config admits R) {α : Type} (a : α) :
    R 0 α (pure a : Run F α) (.ok a) :=
  h.ofResult (.ok a)

theorem charged (h : Reckoning config admits R) {n : Nat} {α : Type} {run : Run F α} {r : Result α}
    (hr : R n α run r) : R (n + 1) α (do Run.charge config; run) r := by
  rw [Nat.add_comm]
  exact h.bind h.charge fun _ _ => hr

/-- Expanding a function gives what it returns, and costs nothing. -/
theorem expand (h : Reckoning config admits R) {call : Meaning F} {actor : Value} {depth : Nat}
    {fn : F} {description : String} {e : Expr F} (he : returned? call actor fn description = some e)
    (hadmits : admits (.expanded fn description (depth + 1))) :
    R 0 (Expr F) (Run.expand call actor depth fn description) (.ok e) := by
  obtain ⟨rule, hc, hr⟩ := returned?_eq_some.1 he
  refine h.bind (n := 0) (m := 0) (g := fun _ => .ok e) (h.record _ hadmits) fun _ _ => ?_
  rw [hc]
  refine h.bind (n := 0) (m := 0) (g := fun _ => .ok e) (h.ofResult (.ok rule)) fun _ h' => ?_
  cases h'
  rw [hr]
  exact h.ofResult _

/-! ## Deciding -/

/-- Rows are counted at no cost that matters. -/
theorem countRows (h : Reckoning config admits R) (hfree : IsFree R) {n : Nat}
    {p : Value → Run F Bool} {q : Value → Result Bool} (hp : ∀ row, R n Bool (p row) (q row))
    (rows : List Value) :
    ∀ needed, R n Bool (countRows needed p rows) (countRows needed q rows) := by
  induction rows with
  | nil => exact fun needed => hfree (h.pure _)
  | cons row rows ih =>
    intro needed
    simp only [Clearance.countRows]
    split
    · exact hfree (h.pure true)
    · refine hfree (h.bind (m := n) (hp row) fun b _ => ?_)
      cases b
      · exact ih needed
      · exact ih (needed - 1)

section

variable {actor : Value} {put : F → String → Option (Expr Empty)} {inner : F → String → Nat}
  {onFunction : OnFunction F (Value → List String → Run F Bool)}

/-- A junction may be settled early, so the nodes of its rules are a bound only. -/
theorem evaluateJunction [CharacterNames] (h : Reckoning config admits R) (hbound : IsBound R)
    {kind : Junction} {resources : Value} {opened : List String} {es : List (Expr F)}
    {ts : List (Expr Empty)} (hs : List.Forall₂ (fun e t => e.substitute put = some t) es ts)
    (ih : ∀ e ∈ es, ∀ t ∈ ts, e.substitute put = some t → R (e.weight inner) Bool
      (evaluateNode config actor onFunction resources opened e)
      (t.decision config actor resources opened)) :
    R (Expr.weightAll inner es) Bool
      (evaluateJunction config actor onFunction resources opened kind es)
      (Expr.decisionAll config actor resources opened kind ts) := by
  induction hs with
  | nil => exact h.pure _
  | @cons e t es ts he _ ihs =>
    simp only [Clearance.evaluateJunction, Expr.decisionAll, Expr.weightAll]
    refine h.bind (ih e (by simp) t (by simp) he) fun b _ => ?_
    split
    · exact ihs fun e he t ht => ih e (by simp [he]) t (by simp [ht])
    · exact hbound (Nat.zero_le _) (h.pure b)

/-- **Deciding a tree, beside the tree that is put for it.**  What is respected at the function nodes
    is respected by the whole. -/
theorem evaluateNode [CharacterNames] (h : Reckoning config admits R) (hbound : IsBound R)
    (hf : ∀ fn description t, put fn description = some t → IsCounted R t →
      ∀ resources opened, R (inner fn description) Bool
        (onFunction fn description resources opened) (t.decision config actor resources opened))
    (e : Expr F) : ∀ t, e.substitute put = some t → IsCounted R t → ∀ resources opened,
      R (e.weight inner) Bool (evaluateNode config actor onFunction resources opened e)
        (t.decision config actor resources opened) := by
  induction e using Expr.treeInduction with
  | literal value =>
    intro t ht _ resources opened
    cases ht
    exact h.charged (h.pure value)
  | leaf e he =>
    intro t ht _ resources opened
    obtain ⟨ht, hd⟩ := evaluateLeaf_substitute config actor resources opened he ht
    rw [evaluateNode_leaf he, Expr.decision_leaf ht, hd, Expr.weight_leaf he]
    exact h.charged (h.ofResult _)
  | function fn description =>
    exact fun t ht hr resources opened => h.charged (hf fn description t ht hr _ _)
  | related kind table predicate minCount ih =>
    intro t ht hr resources opened
    obtain ⟨p, hp, rfl⟩ := Option.map_eq_some_iff.1 ht
    have hfree := hr.of_related
    rw [Clearance.evaluateNode, Expr.decision, Expr.weight]
    refine h.charged ?_
    split
    · exact hfree (h.pure true)
    · rcases (resources.field table).rows? with _ | rows
      · exact hfree (h.pure false)
      · refine hfree (h.countRows (n := 0 + predicate.weight inner) hfree (fun row => ?_) _ _)
        exact h.bind (h.ofResult _) fun bound _ => ih p hp (.inr hfree) _ _
  | not e ih =>
    intro t ht hr resources opened
    obtain ⟨p, hp, rfl⟩ := Option.map_eq_some_iff.1 ht
    rw [Clearance.evaluateNode, Expr.decision, Expr.weight]
    exact h.charged (h.bind (m := 0) (ih p hp hr.of_not _ _) fun b _ => h.pure _)
  | junction kind rules ih =>
    intro t ht hr resources opened
    obtain ⟨ts, hts, rfl⟩ := Option.map_eq_some_iff.1 ht
    rw [Clearance.evaluateNode, Expr.decision, Expr.weight]
    exact h.charged (h.evaluateJunction hbound (Expr.substituteAll_eq_some.1 hts)
      fun e he t ht h => ih e he t h (hr.of_junction t ht) resources opened)

end

/-- With a number of calls allowed along a path, a tree is decided beside its expansion. -/
theorem evaluateWithin [CharacterNames] (h : Reckoning config admits R) (hbound : IsBound R)
    {call : Meaning F} {actor : Value}
    (hadmits : ∀ fn rule description depth, call fn actor = .ok rule →
      admits (.expanded fn description depth)) (remaining : Nat) :
    ∀ e t, expandWithin call actor remaining e = some t → IsCounted R t →
      ∀ resources opened, R (weightWithin call actor remaining e) Bool
        (evaluateWithin config call actor remaining resources opened e)
        (t.decision config actor resources opened) := by
  induction remaining with
  | zero => exact fun e t ht => h.evaluateNode hbound (fun _ _ _ h => by cases h) e t ht
  | succ remaining ih =>
    intro e t ht
    refine h.evaluateNode hbound (fun fn description t ht hr resources opened => ?_) e t ht
    obtain ⟨e', he, ht⟩ := Option.bind_eq_some_iff.1 ht
    obtain ⟨rule, hc, -⟩ := returned?_eq_some.1 he
    rw [he, ← Nat.zero_add (Option.getD _ _)]
    exact h.bind (g := fun e => t.decision config actor resources opened)
      (h.expand he (hadmits fn rule description _ hc))
      fun a ha => by cases ha; exact ih e' t ht hr resources opened

/-- A rule is decided beside its expansion. -/
theorem evaluate [CharacterNames] (h : Reckoning config admits R) (hbound : IsBound R)
    {call : Meaning F} {actor : Value}
    (hadmits : ∀ fn rule description depth, call fn actor = .ok rule →
      admits (.expanded fn description depth)) {r : Rule F} {t : Expr Empty}
    (ht : r.expansion config call actor = some t) (hr : IsCounted R t) (resources : Value) :
    R (r.weight config call actor) Bool (r.evaluate config call actor resources)
      (t.decision config actor resources []) := by
  obtain ⟨e, he, ht⟩ := Rule.expansion_eq_some.1 ht
  rw [Rule.evaluate, Rule.weight_eq he, he, ← Nat.zero_add (weightWithin _ _ _ _)]
  exact h.bind (g := fun _ => t.decision config actor resources []) (h.ofResult (.ok e))
    fun a ha => by cases ha; exact h.evaluateWithin hbound hadmits _ e t ht hr resources []

end Reckoning

/-! ## Results -/

theorem Follows.reckoning {config : Config} :
    Reckoning config (fun _ => True) (fun _ _ (run : Run F _) r => Follows config run r) where
  ofResult := .ofResult
  record event _ := .record event
  charge := .charge
  bind := .bind

end Run

/-- What is expanded is what a function returns. -/
theorem returned?_of_expand {call : Meaning F} {actor : Value} {depth : Nat} {fn : F}
    {description : String} {t : Tally F} {e : Expr F}
    (h : ((Run.expand call actor depth fn description).outcomeFrom t).1 = .ok e) :
    returned? call actor fn description = some e := by
  obtain ⟨_, _, -, h⟩ := Run.outcomeFrom_bind_ok h
  obtain ⟨rule, _, hc, h⟩ := Run.outcomeFrom_bind_ok h
  rw [Run.outcomeFrom_ofResult] at hc h
  exact returned?_eq_some.2 ⟨rule, hc, h⟩

/-- Deciding a rule follows the decision of its expansion. -/
theorem Rule.evaluate_follows [CharacterNames] {config : Config} {call : Meaning F}
    {actor resources : Value} {r : Rule F} {t : Expr Empty}
    (h : r.expansion config call actor = some t) :
    (r.evaluate config call actor resources).Follows config
      (t.decision config actor resources []) :=
  Run.Follows.reckoning.evaluate (fun _ _ _ _ _ _ h => h) (fun _ _ _ _ _ => trivial) h
    (.inr fun _ _ _ _ _ h => h) resources

end Clearance
