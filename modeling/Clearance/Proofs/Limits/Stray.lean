/-
  Paths on the row of a table that is not open.

  * `evaluateLeaf_stray`: a test that holds a stray path fails before it looks at any value, except
    for a membership among no constants, which reads nothing;
  * `Visit.ExpandsInto`: the nodes that a decision visits are nodes of the expansion of the rule,
    with the same tables open around them;
  * `Rule.stray_visited`: a visited test with a stray path fails the decision, and the rule does not
    compile, whatever is declared; a membership among no constants is decided all the same.
-/
import Clearance.Proofs.Decision.OnData
import Clearance.Proofs.Filter.Declared

namespace Clearance

open Relation

variable {F : Type} {config : Config} {call : Meaning F} {actor resources : Value}
  {opened : List String}

/-! ## Tests with a stray path -/

theorem checkScope_eq (p : PathRef) (opened : List String) : checkScope p opened =
    if Expr.isStray opened p then .error (.strayPath p (some opened)) else .ok () := rfl

/-- What a test with a stray path fails with: a stray path of it, or else a field of the actor that
    is looked up before. -/
def Expr.StraysWith (e : Expr F) (opened : List String) (err : Error) : Prop :=
  (∃ p ∈ e.nodePaths, isStray opened p = true ∧ err = .strayPath p (some opened)) ∨
    (∃ path, e = .tenantScoped path) ∧ err.category? = some .missingActorField

/-- Reading an operand of a test fails if its path is stray, and otherwise the test goes on. -/
theorem resolveOperand_strays {e : Expr F} {o : Operand} {f : Value → Result Bool}
    (ho : ∀ p ∈ o.path?, p ∈ e.nodePaths)
    (hf : (∀ p ∈ o.path?, Expr.isStray opened p = false) →
      ∀ v, ∃ err, f v = .error err ∧ e.StraysWith opened err) :
    ∃ err, (resolveOperand resources opened o >>= f) = .error err ∧ e.StraysWith opened err := by
  cases o with
  | path p =>
    rw [resolveOperand, resolvePath, checkScope_eq]
    cases hs : Expr.isStray opened p with
    | true => exact ⟨_, rfl, .inl ⟨p, ho p rfl, hs, rfl⟩⟩
    | false => exact hf (fun q hq => by cases hq; exact hs) _
  | actor a => exact hf (fun q hq => absurd hq (Option.not_mem_none q)) _
  | scalar s => exact hf (fun q hq => absurd hq (Option.not_mem_none q)) _

/-- **A test with a stray path fails**, unless it asks for membership among no constants. -/
theorem evaluateLeaf_stray [CharacterNames] {e : Expr F} {p : PathRef} (hp : p ∈ e.nodePaths)
    (hs : Expr.isStray opened p = true) (hne : ∀ path, e ≠ .inArray path []) :
    ∃ err, evaluateLeaf config actor resources opened e = .error err ∧ e.StraysWith opened err := by
  -- one of the paths that are read is the stray one
  have hread : ∀ {r : Result Bool}, (∀ q ∈ e.nodePaths, Expr.isStray opened q = false) →
      ∃ err, r = .error err ∧ e.StraysWith opened err := fun h => by
    rw [h p hp] at hs
    cases hs
  have hone : ∀ (path : PathRef) (f : Value → Result Bool), e.nodePaths = [path] →
      ∃ err, (resolveOperand resources opened (.path path) >>= f) = .error err ∧
        e.StraysWith opened err := fun path f h =>
    resolveOperand_strays (by simp [h, Operand.path?]) fun hf _ =>
      hread (by simpa [h, Operand.path?] using hf)
  cases e with
  | comparison op left right =>
    refine resolveOperand_strays (o := .path left) (by simp [Expr.nodePaths, Operand.path?])
      fun hl _ => resolveOperand_strays (o := right) (by simp +contextual [Expr.nodePaths])
      fun hr _ => hread ?_
    simp only [Operand.path?] at hl
    simpa [Expr.nodePaths] using ⟨hl left rfl, hr⟩
  | between path min max =>
    refine resolveOperand_strays (o := .path path) (by simp [Expr.nodePaths, Operand.path?])
      fun hl _ => resolveOperand_strays (o := min) (by simp +contextual [Expr.nodePaths])
      fun hmin _ => resolveOperand_strays (o := max) (by simp +contextual [Expr.nodePaths])
      fun hmax _ => hread ?_
    simp only [Operand.path?] at hl
    simp only [Expr.nodePaths, List.mem_cons, List.mem_append, Option.mem_toList]
    rintro q (rfl | hq | hq)
    · exact hl q rfl
    · exact hmin q hq
    · exact hmax q hq
  | inArray path values =>
    cases values with
    | nil => exact absurd rfl (hne path)
    | cons => exact hone path _ rfl
  | nullCheck test path | textMatch test path text | belongsToTenant a path => exact hone path _ rfl
  | «matches» path pattern flags => exact hone path _ rfl
  | tenantScoped path =>
    rw [evaluateLeaf]
    cases ht : lookupTenant actor path.column config.tenantNamespace with
    | error err => exact ⟨err, rfl, .inr ⟨⟨path, rfl⟩, lookupTenant_failsOnly _ _ _ err ht⟩⟩
    | ok tenant => exact hone path _ rfl
  | literal | function | related | not | junction => cases hp

/-! ## Visits and the expansion -/

/-- A visited node has an expansion, and the nodes of this are nodes of a tree, with the same tables
    open around them. -/
def Visit.ExpandsInto (config : Config) (call : Meaning F) (actor : Value) (t : Expr Empty)
    (v : Visit F (Value × List String)) : Prop :=
  ∃ node, expandWithin call actor (config.maxFunctionDepth - v.called.length) v.node = some node ∧
    node.scopedNodes v.place.2 ⊆ t.scopedNodes []

/-- What is expanded is put for each function node, whatever the number of calls allowed. -/
theorem exists_expandWithin_eq_substitute (call : Meaning F) (actor : Value) (n : Nat) :
    ∃ put, expandWithin call actor n = Expr.substitute put := by
  cases n with
  | zero => exact ⟨_, rfl⟩
  | succ n => exact ⟨_, rfl⟩

/-- A test is put for itself, with its paths. -/
theorem Expr.nodePaths_substitute {put : F → String → Option (Expr Empty)} {e : Expr F}
    {t : Expr Empty} (he : e.isLeaf = true) (h : e.substitute put = some t) :
    t.nodePaths = e.nodePaths := by
  cases e <;> first | (cases h; rfl) | cases he

/-- From a visit to one that it leads to. -/
theorem Visit.ExpandsInto.step [CharacterNames] {t : Expr Empty}
    {v w : Visit F (Value × List String)} (h : v.ExpandsInto config call actor t)
    (hw : v.Decides config call actor w) :
    w.ExpandsInto config call actor t := by
  obtain ⟨node, hx, hsub⟩ := h
  cases hw with
  | @negation called place _ e =>
    obtain ⟨put, hput⟩ := exists_expandWithin_eq_substitute call actor
      (config.maxFunctionDepth - called.length)
    rw [hput, Expr.substitute, Option.map_eq_some_iff] at hx
    obtain ⟨e', he, rfl⟩ := hx
    exact ⟨e', by rw [hput, he], fun n hn => hsub (Expr.mem_scopedNodes_not hn)⟩
  | @rule called resources opened _ kind before e after =>
    obtain ⟨put, hput⟩ := exists_expandWithin_eq_substitute call actor
      (config.maxFunctionDepth - called.length)
    rw [hput, Expr.substitute, Option.map_eq_some_iff] at hx
    obtain ⟨es, hes, rfl⟩ := hx
    obtain ⟨e', he', hx⟩ := exists_of_forall₂ (Expr.substituteAll_eq_some.1 hes)
      (List.mem_append_right before (List.mem_cons_self (a := e)))
    exact ⟨e', by rw [hput, hx], fun n hn => hsub (Expr.mem_scopedNodes_junction he' hn)⟩
  | @row called resources opened _ kind table predicate minCount =>
    obtain ⟨put, hput⟩ := exists_expandWithin_eq_substitute call actor
      (config.maxFunctionDepth - called.length)
    rw [hput, Expr.substitute, Option.map_eq_some_iff] at hx
    obtain ⟨p, hp, rfl⟩ := hx
    exact ⟨p, by rw [hput, hp], fun n hn => hsub (Expr.mem_scopedNodes_related hn)⟩
  | @call called place _ fn description e _ _ hlt hok =>
    obtain ⟨remaining, hleft, -, hnext⟩ := exists_remaining hlt fn
    have hret := returned?_of_expand (congrArg Prod.fst hok)
    rw [hleft] at hx
    have hx : (returned? call actor fn description).bind (expandWithin call actor remaining) =
        some node := hx
    rw [hret] at hx
    exact ⟨node, by rw [hnext]; exact hx, hsub⟩

theorem Visit.ExpandsInto.of_reaches [CharacterNames] {t : Expr Empty}
    {v w : Visit F (Value × List String)} (h : v.ExpandsInto config call actor t)
    (hw : ReflTransGen (Visit.Decides config call actor) v w) :
    w.ExpandsInto config call actor t := by
  induction hw with
  | refl => exact h
  | tail _ hstep ih => exact ih.step hstep

/-- The paths of a test that is visited are references of the expansion, under the tables that are
    open at the visit. -/
theorem Visit.ExpandsInto.mem_references {t : Expr Empty} {v : Visit F (Value × List String)}
    (h : v.ExpandsInto config call actor t) (hl : v.node.isLeaf = true) {p : PathRef}
    (hp : p ∈ v.node.nodePaths) : ⟨v.place.2, p⟩ ∈ t.references [] := by
  obtain ⟨node, hx, hsub⟩ := h
  obtain ⟨put, hput⟩ := exists_expandWithin_eq_substitute call actor
    (config.maxFunctionDepth - v.called.length)
  rw [hput] at hx
  exact Expr.mem_references.2 ⟨⟨v.place.2, node⟩, hsub (Expr.self_mem_scopedNodes _ _),
    by rwa [Expr.nodePaths_substitute hl hx], rfl⟩

/-! ## Rules -/

/-- **A stray path that is visited.**  Whatever the rule, its functions and the resources: when a
    decision visits a test that holds a stray path, then it ends with an error, that of the test
    unless the limit on the nodes forbids the visit, and the rule does not compile, whatever is
    declared.  Only a membership among no constants is decided, as false, all the same. -/
theorem Rule.stray_visited [CharacterNames] (config : Config) (call : Meaning F)
    (actor resources : Value) {r : Rule F} {e : Expr F} (he : r.toExpr = .ok e)
    {v : Visit F (Value × List String)}
    (hv : ReflTransGen (Visit.Decides config call actor) (.first (resources, []) e) v)
    (hl : v.node.isLeaf = true) {p : PathRef} (hp : p ∈ v.node.nodePaths)
    (hs : Expr.isStray v.place.2 p = true) :
    ((∀ path, v.node ≠ .inArray path []) →
      ∃ err, (r.evaluate config call actor resources).result = .error err ∧
        (v.node.StraysWith v.place.2 err ∨ err.category? = some .expressionBudgetExceeded)) ∧
    (∀ path, v.node = .inArray path [] → config.Admits (v.tally.nodes + 1) →
      (v.decide config call actor).1 = .ok false) ∧
    ∀ d, ∃ err, (r.compile config call d actor).result = .error err := by
  refine ⟨fun hne => ?_, fun path hpath hadm => ?_, fun d => ?_⟩
  · have herror : ∃ err, (v.decide config call actor).1 = .error err ∧
        (v.node.StraysWith v.place.2 err ∨ err.category? = some .expressionBudgetExceeded) := by
      by_cases hadm : config.Admits (v.tally.nodes + 1)
      · obtain ⟨err, herr, hwith⟩ := evaluateLeaf_stray hp hs hne
        exact ⟨err, by rw [Visit.decide_leaf hadm hl]; exact herr, .inl hwith⟩
      · obtain ⟨limit, ho⟩ := Visit.decide_refused call actor hadm
        exact ⟨_, by rw [ho], .inr rfl⟩
    obtain ⟨err, herr, hwith⟩ := herror
    refine ⟨err, (congrArg Prod.fst (Rule.evaluate_outcome he)).trans ?_, hwith⟩
    exact (decides_traversal config call actor).error_of_reaches hv herr
  · rw [Visit.decide_leaf hadm hl, hpath]
    rfl
  · cases hc : (r.compile config call d actor).result with
    | error err => exact ⟨err, rfl⟩
    | ok c =>
      -- the path would be a reference of what is compiled, which is covered
      obtain ⟨t, ht, hclause⟩ := Rule.expansion_of_compile hc
      obtain ⟨e', he', hx⟩ := Rule.expansion_eq_some.1 ht
      cases he.symm.trans he'
      have hinto : Visit.ExpandsInto config call actor t (.first (resources, []) e) :=
        ⟨t, hx, List.Subset.refl _⟩
      have hscope := (t.covers_of_clause hclause).scope _
        ((hinto.of_reaches hv).mem_references hl hp)
      obtain ⟨hscoped, hout⟩ := Bool.and_eq_true_iff.1 hs
      rw [Bool.not_eq_true', ← Bool.not_eq_true, List.contains_iff_mem] at hout
      exact absurd (hscope hscoped) hout

section

attribute [local instance] CharacterNames.empty

/-- Under the likes, a note that is not opened: the decision of the only like fails. -/
theorem Rule.stray_visited_of_likes :
    let path : PathRef := ⟨true, "notes", "item_id"⟩
    let r : Rule Empty := .expr (.related .exists "likes" (.not (.inArray path [.int 1])) 1)
    let resources : Value := .dict [("likes", .list [.dict []])]
    (∃ err, (r.evaluate {} noFunctions .null resources).result = .error err) ∧
      ∃ err, (r.compile {} noFunctions itemTables .null).result = .error err := by
  intro path r resources
  have hadm : ∀ n, Config.Admits {} n := fun n limit hl => by cases hl
  have hrows : (resources.field "likes").rows? = some ([] ++ .dict [] :: []) := rfl
  have hrow : Visit.Decides {} noFunctions .null (.first (resources, []) (.related .exists "likes"
      (.not (.inArray path [.int 1])) 1)) ⟨[], (.dict [("likes", .dict [])], ["likes"]),
        Tally.charged {}, .not (.inArray path [.int 1])⟩ :=
    .row (hadm _) hrows rfl rfl
  obtain ⟨hdecide, -, hcompile⟩ := Rule.stray_visited {} noFunctions .null resources (r := r) rfl
    (.tail (.single hrow) (.negation (hadm _))) rfl (p := path) (List.mem_singleton.2 rfl)
    (by decide)
  obtain ⟨err, herr, -⟩ := hdecide fun path h => by cases h
  exact ⟨⟨err, herr⟩, hcompile itemTables⟩

/-- A comment that is not opened, and is to be one of no authors: the decision visits the test and
    gives an answer. -/
theorem Rule.evaluate_passes_stray :
    let path : PathRef := ⟨true, "comments", "author_id"⟩
    let r : Rule Empty := .expr (.inArray path [])
    let resources : Value := .dict [("comments", .list [.dict [("author_id", .int 7)]])]
    (∃ v, ReflTransGen (Visit.Decides {} noFunctions .null)
        (.first (resources, []) (.inArray path [])) v ∧ v.node.isLeaf = true ∧
        path ∈ v.node.nodePaths ∧ Expr.isStray v.place.2 path = true) ∧
      (r.evaluate {} noFunctions .null resources).result = .ok false ∧
      ∀ d, ∃ err, (r.compile {} noFunctions d .null).result = .error err := by
  refine ⟨⟨_, .refl, rfl, List.mem_singleton.2 rfl, by decide⟩, rfl, fun d => ⟨_, rfl⟩⟩

end

end Clearance
