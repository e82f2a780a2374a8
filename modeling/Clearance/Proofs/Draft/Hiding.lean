/-
  What the errors of the operators tell of an actor.

  A call runs for two actors of one shape to the same end: it succeeds, or it fails with one
  error, apart from what is shown where a column or a table is wanted.

  * `compare_twin` and the like: one lemma for each operator;
  * `Call.run_twin` puts them together, for calls of any depth;
  * `Call.run_tells`: what the errors of two runs have in common.
-/
import Clearance.Proofs.Draft.Twin

namespace Clearance

variable {F : Type}

/-! ## Operators -/

namespace Operator

variable {a b path path' : Argument F}

theorem scalarActor_twin {v w : Value} (h : v.SameShape w) (source role : String) :
    Result.Twin F (fun _ _ => True) (scalarActor ⟨v, source⟩ role)
      (scalarActor ⟨w, source⟩ role) := by
  cases h with
  | scalar => exact .ok trivial
  | _ => exact .fails _

/-- An operand of an actor is checked alike whatever the value: it holds no path. -/
theorem operand_twin (h : a.Twin b) (role : String) :
    Result.Twin F Operand.SamePath (operand a role) (operand b role) := by
  cases h with
  | same => exact .refl .refl _
  | actor source h => exact (scalarActor_twin h source role).bind fun _ _ _ => .ok rfl
  | exposed h =>
    cases h with
    | actorRef source h => exact (scalarActor_twin h source role).bind fun _ _ _ => .ok rfl
    | expr h =>
      simp only [operand, Argument.typeName, Rule.typeName, h.className]
      exact .fails _

theorem compare_twin (op : CompareOp) (hp : path.Twin path') (h : a.Twin b) :
    Result.Twin F Expr.SameProfile (compare op path a) (compare op path' b) := by
  refine hp.path.bind fun p _ hp => (operand_twin h _).bind fun o o' ho => .ok ?_
  subst hp
  rw [Expr.SameProfile, Expr.profile_eq, Expr.profile_eq, Expr.nodeProfile, Expr.nodePaths, ho]
  rfl

theorem between_twin {c d : Argument F} (hp : path.Twin path') (h : a.Twin b) (h' : c.Twin d) :
    Result.Twin F Expr.SameProfile (between path a c) (between path' b d) := by
  refine hp.path.bind fun p _ hp => (operand_twin h _).bind fun low low' hl =>
    (operand_twin h' _).bind fun high high' hh => .ok ?_
  subst hp
  rw [Expr.SameProfile, Expr.profile_eq, Expr.profile_eq, Expr.nodeProfile, Expr.nodePaths, hl, hh]
  rfl

theorem items_twin {v w : Value} (h : v.SameShape w) :
    Result.Twin F Value.SameTypes (items v) (items w) := by
  have htype := h.typeName
  cases h with
  | scalar =>
    simp only [items, htype]
    exact .fails _
  | list h => exact .ok h
  | tuple h => exact .ok h
  | set h => exact .ok h
  | _ => exact .fails _

theorem scalars_cons (v : Value) (rest : List Value) : scalars (v :: rest) =
    v.scalar?.elim (.error (.itemNotScalar v.typeName)) fun s => do
      return s :: (← scalars rest) := by
  cases v <;> rfl

/-- The first item that is no scalar is at one place, and of one type. -/
theorem scalars_twin : ∀ {vs ws : List Value}, Value.SameTypes vs ws →
    Result.Twin F (fun _ _ => True) (scalars vs) (scalars ws)
  | [], [], _ => .ok trivial
  | v :: vs, w :: ws, h => by
    obtain ⟨hvw, hrest⟩ := List.cons.inj h
    have hs := Value.scalar?_isSome_congr hvw
    rw [scalars_cons, scalars_cons, hvw]
    cases hv : v.scalar? with
    | none =>
      cases hw : w.scalar? with
      | none => exact .fails _
      | some t => simp [hv, hw] at hs
    | some s =>
      cases hw : w.scalar? with
      | none => simp [hv, hw] at hs
      | some t => exact (scalars_twin hrest).bind fun _ _ _ => .ok trivial

theorem inArray_twin (hp : path.Twin path') (h : a.Twin b) :
    Result.Twin F Expr.SameProfile (inArray path a) (inArray path' b) := by
  have hitems : Result.Twin F Value.SameTypes
      (a.held?.elim (.error (.notSequence a.typeName)) items)
      (b.held?.elim (.error (.notSequence b.typeName)) items) := by
    rcases h.held? with heq | ⟨v, w, hv, hw, hs⟩
    · rw [heq, h.typeName]
      exact .refl .refl _
    · rw [hv, hw]
      exact items_twin hs
  rw [inArray_eq, inArray_eq]
  refine hitems.bind fun vs ws hvs => (scalars_twin hvs).bind fun ss ts _ =>
    hp.path.bind fun p _ hp => .ok ?_
  subst hp
  rw [Expr.SameProfile, Expr.profile_eq, Expr.profile_eq]
  rfl

theorem inArrayOf_twin (hp : path.Twin path') {as bs : List (Argument F)}
    (h : List.Forall₂ Argument.Twin as bs) :
    Result.Twin F Expr.SameProfile (inArrayOf path as) (inArrayOf path' bs) := by
  refine (Result.Twin.mapM h fun _ _ hab => hab.asScalar).bind fun ss ts hs => ?_
  rw [List.forall₂_eq_eq_eq] at hs
  subst hs
  exact inArray_twin hp (.same _)

theorem nullCheck_twin (test : NullTest) (hp : path.Twin path') :
    Result.Twin F Expr.SameProfile (nullCheck test path) (nullCheck test path') := by
  refine hp.path.bind fun p _ hp => .ok ?_
  subst hp
  exact .refl _

theorem textMatchWith_twin (test : TextTest) (hp : path.Twin path') (h : a.Twin b) :
    Result.Twin F Expr.SameProfile (textMatchWith test path a) (textMatchWith test path' b) := by
  refine hp.path.bind fun p _ hp => (h.asText _).bind fun s _ hs => ?_
  subst hp hs
  exact .refl .refl _

theorem searchWith_twin [CharacterNames] (hp : path.Twin path') (h : a.Twin b) {c d : Argument F}
    (h' : c.Twin d) :
    Result.Twin F Expr.SameProfile (searchWith path a c) (searchWith path' b d) := by
  refine hp.path.bind fun p _ hp => (h.asText _).bind fun s _ hs =>
    (h'.asText _).bind fun t _ ht => ?_
  subst hp hs ht
  exact .refl .refl _

theorem tenantScoped_twin (hp : path.Twin path') :
    Result.Twin F Expr.SameProfile (tenantScoped path) (tenantScoped path') := by
  refine hp.path.bind fun p _ hp => .ok ?_
  subst hp
  exact .refl _

theorem belongsToTenant_twin (h : a.Twin b) (hp : path.Twin path') :
    Result.Twin F Expr.SameProfile (belongsToTenant a path) (belongsToTenant b path') := by
  have hpath : ∀ ref ref' : ActorRef, Result.Twin F (@Expr.SameProfile F)
      (do return .belongsToTenant ref (← path.path))
      (do return .belongsToTenant ref' (← path'.path)) := by
    intro ref ref'
    refine hp.path.bind fun p _ hp => .ok ?_
    subst hp
    rw [Expr.SameProfile, Expr.profile_eq, Expr.profile_eq]
    rfl
  rw [belongsToTenant_eq, belongsToTenant_eq]
  rcases h.captured? with heq | ⟨v, w, source, ha, hb, hs⟩
  · rw [heq, h.typeName]
    refine (@Result.Twin.refl F _ (· = ·) (fun _ => rfl) _).bind fun ref _ href => ?_
    subst href
    exact (@Result.Twin.refl F _ (· = ·) (fun _ => rfl) _).bind fun x y _ => hpath x y
  · rw [ha, hb]
    exact (scalarActor_twin hs source _).bind fun x y _ => hpath x y

theorem literalWith_twin (h : a.Twin b) :
    Result.Twin F Expr.SameProfile (literalWith a) (literalWith b) := by
  rw [literalWith, literalWith, h.asValue]
  exact .refl .refl _

theorem negationWith_twin (h : a.Twin b) :
    Result.Twin F Expr.SameProfile (negationWith a) (negationWith b) :=
  h.asExpr.bind fun _ _ he => .ok he.not

/-- Expressions are joined as they are. -/
theorem junction_expr (kind : Junction) (es : List (Expr F)) :
    junction kind (es.map .expr) = .ok (.junction kind es) := by
  have hes : (es.map Rule.expr).mapM Rule.toExpr = .ok es := by
    induction es with
    | nil => rfl
    | cons e rest ih =>
      rw [List.map_cons, List.mapM_cons, ih]
      rfl
  rw [junction, hes]
  rfl

theorem junctionWith_twin (kind : Junction) {as bs : List (Argument F)}
    (h : List.Forall₂ Argument.Twin as bs) :
    Result.Twin F Expr.SameProfile (junctionWith kind as) (junctionWith kind bs) := by
  refine (Result.Twin.mapM h fun _ _ hab => hab.asExpr).bind fun es es' hes => ?_
  rw [junction_expr, junction_expr]
  exact .ok (.junction kind hes)

/-- The description of a function is not checked. -/
theorem functionWith_twin (h : a.Twin b) {c d : Argument F} :
    Result.Twin F Expr.SameProfile (functionWith a c) (functionWith b d) := by
  cases h with
  | same =>
    cases a with
    | rule r =>
      cases r with
      | function fn name =>
        refine .ok ?_
        rw [Expr.SameProfile, Expr.profile_eq, Expr.profile_eq]
        rfl
      | _ => exact .fails _
    | _ => exact .fails _
  | actor => exact .fails _
  | exposed h => cases h <;> exact .fails _

/-- Whether a predicate is correlated is read off its paths and the tables that it opens. -/
theorem relatedWith_twin (kind : RelatedKind) (table : String) (h : a.Twin b) {c d : Argument F}
    (h' : c.Twin d) : Result.Twin F Expr.SameProfile (relatedWith kind table a c)
      (relatedWith kind table b d) := by
  rw [relatedWith, relatedWith, h'.asValue]
  refine h.asExpr.bind fun e e' he => ?_
  have heq : ∀ e : Expr F, related kind table (.expr e) (asValue d) =
      if isCorrelated table e then do
        return .related kind table e (← rowCount kind (asValue d))
      else .error (.uncorrelated kind.kind table e.hasFunction) := fun _ => rfl
  rw [heq, heq, he.isCorrelated, he.hasFunction]
  split
  · refine (@Result.Twin.refl F _ (· = ·) (fun _ => rfl) _).bind fun n _ hn => .ok ?_
    subst hn
    exact he.related kind table n
  · exact .fails _

end Operator

/-! ## Calls -/

namespace Call

variable (apply : F → Argument F → Result (Argument F)) {v w : Value}

/-- An operator that makes nodes checked alike gives arguments that differ in data only. -/
theorem rule_twin {r r' : Result (Expr F)} (h : Result.Twin F Expr.SameProfile r r') :
    Result.Twin F Argument.Twin (do return .rule (.expr (← r))) (do return .rule (.expr (← r'))) :=
  h.bind fun _ _ he => .ok (.exposed (.expr he))

mutual

/-- **Run for two actors of one shape**, a call gives arguments that differ in data only, or fails
    with one error but for what is shown where a column or a table is wanted. -/
theorem run_twin [CharacterNames] (h : v.SameShape w) : ∀ c : Call F,
    Result.Twin F Argument.Twin (c.run apply v) (c.run apply w)
  | .given a names => .refl .same _
  | .actor names => Argument.Twin.captures names (.actor _ h)
  | .compare op left right =>
    (run_twin h left).bind fun _ _ hl => (run_twin h right).bind fun _ _ hr =>
      rule_twin (Operator.compare_twin op hl hr)
  | .between path low high =>
    (run_twin h path).bind fun _ _ hp => (run_twin h low).bind fun _ _ hl =>
      (run_twin h high).bind fun _ _ hh => rule_twin (Operator.between_twin hp hl hh)
  | .inArray path values =>
    (run_twin h path).bind fun _ _ hp => (run_twin h values).bind fun _ _ hv =>
      rule_twin (Operator.inArray_twin hp hv)
  | .inArrayOf path items =>
    (run_twin h path).bind fun _ _ hp => (runAll_twin h items).bind fun _ _ hi =>
      rule_twin (Operator.inArrayOf_twin hp hi)
  | .nullCheck test path =>
    (run_twin h path).bind fun _ _ hp => rule_twin (Operator.nullCheck_twin test hp)
  | .textMatch test path text =>
    (run_twin h path).bind fun _ _ hp => (run_twin h text).bind fun _ _ ht =>
      rule_twin (Operator.textMatchWith_twin test hp ht)
  | .search path pattern flags =>
    (run_twin h path).bind fun _ _ hp => (run_twin h pattern).bind fun _ _ ht =>
      (run_twin h flags).bind fun _ _ hf => rule_twin (Operator.searchWith_twin hp ht hf)
  | .tenantScoped path =>
    (run_twin h path).bind fun _ _ hp => rule_twin (Operator.tenantScoped_twin hp)
  | .belongsToTenant actorValue path =>
    (run_twin h actorValue).bind fun _ _ ha => (run_twin h path).bind fun _ _ hp =>
      rule_twin (Operator.belongsToTenant_twin ha hp)
  | .literal value =>
    (run_twin h value).bind fun _ _ hv => rule_twin (Operator.literalWith_twin hv)
  | .negation rule =>
    (run_twin h rule).bind fun _ _ hr => rule_twin (Operator.negationWith_twin hr)
  | .junction kind rules =>
    (runAll_twin h rules).bind fun _ _ hr => rule_twin (Operator.junctionWith_twin kind hr)
  | .function fn description =>
    (run_twin h fn).bind fun _ _ hf => (run_twin h description).bind fun _ _ _ =>
      rule_twin (Operator.functionWith_twin hf)
  | .related kind table predicate minCount =>
    (run_twin h table).bind fun _ _ ht => (run_twin h predicate).bind fun _ _ hp =>
      (run_twin h minCount).bind fun _ _ hm => (ht.openTable kind).bind fun opened _ ho => by
        subst ho
        exact (hp.asPredicate apply opened.2).bind fun _ _ hp =>
          rule_twin (Operator.relatedWith_twin kind opened.1 hp hm)
  | .relatedRow kind table predicate minCount =>
    (run_twin h table).bind fun _ _ ht => (run_twin h minCount).bind fun _ _ hm =>
      (ht.openTable kind).bind fun opened _ ho => by
        subst ho
        exact (run_twin h (predicate opened.2)).bind fun _ _ hp =>
          rule_twin (Operator.relatedWith_twin kind opened.1 hp hm)

theorem runAll_twin [CharacterNames] (h : v.SameShape w) : ∀ cs : List (Call F),
    Result.Twin F (List.Forall₂ Argument.Twin) (Call.runAll apply v cs) (Call.runAll apply w cs)
  | [] => .ok .nil
  | c :: rest => (run_twin h c).bind fun _ _ ha => (runAll_twin h rest).bind fun _ _ hr =>
      .ok (.cons ha hr)

end

/-- **What errors tell of an actor.**  For two actors of one shape a call succeeds or fails alike,
    under one name.  It fails with one message and the same details, unless a captured value or an
    expression stands where a column or a table is wanted: that one is shown with its data. -/
theorem run_tells [CharacterNames] (h : v.SameShape w) (c : Call F) :
    (∃ a b, c.run apply v = .ok a ∧ c.run apply w = .ok b) ∨
      ∃ e e', c.run apply v = .error e ∧ c.run apply w = .error e' ∧ e.name = e'.name ∧
        ((e.message? = e'.message? ∧ e.details = e'.details) ∨
          ∃ a b : Argument F, a.Exposed b ∧
            ((e = .notPath a.display ∧ e' = .notPath b.display) ∨
              ∃ kind, e = .notTable kind a.display ∧ e' = .notTable kind b.display)) := by
  have hrun := run_twin apply h c
  generalize c.run apply v = r at hrun ⊢
  generalize c.run apply w = r' at hrun ⊢
  cases hrun with
  | ok => exact .inl ⟨_, _, rfl, rfl⟩
  | error he =>
    refine .inr ⟨_, _, rfl, rfl, ?_⟩
    cases he with
    | same => exact ⟨rfl, .inl ⟨rfl, rfl⟩⟩
    | path h => exact ⟨rfl, .inr ⟨_, _, h, .inl ⟨rfl, rfl⟩⟩⟩
    | table kind h => exact ⟨rfl, .inr ⟨_, _, h, .inr ⟨kind, rfl, rfl⟩⟩⟩

/-- An actor that is known by its identifier. -/
def userOf (id : String) : Value := .dict [("user", .dict [("id", .str id)])]

theorem userOf_sameShape (id id' : String) : (userOf id).SameShape (userOf id') :=
  .of_fields (.cons ⟨rfl, .of_fields (.cons ⟨rfl, .scalar rfl⟩ .nil)⟩ .nil)

/-- A comparison with its operands the wrong way round: the actor where the column should be. -/
def actorFirst (names : List String) : Call Empty :=
  .compare .eq (.actor names) (.given (.value (.int 1)) [])

theorem actorFirst_run [CharacterNames] (id : String)
    (apply : Empty → Argument Empty → Result (Argument Empty)) :
    (actorFirst ["user", "id"]).run apply (userOf id) =
      .error (.notPath (ActorRef.display ⟨.str id, "actor.user.id"⟩)) := by
  have hchain : (Argument.ofActor (userOf id)).captures ["user", "id"] =
      .ok (.actorRef ⟨.str id, "actor.user.id"⟩ : Argument Empty) := rfl
  rw [actorFirst, run, run, run, hchain]
  rfl

section

attribute [local instance] CharacterNames.empty

/-- Two actors of one shape for which the call of a comparison fails. -/
theorem run_tells_of_ids : (userOf "u1").SameShape (userOf "u2") ∧
    ∃ e e', (actorFirst ["user", "id"]).run (fun fn _ => fn.elim) (userOf "u1") = .error e ∧
      (actorFirst ["user", "id"]).run (fun fn _ => fn.elim) (userOf "u2") = .error e' ∧
      e.name = e'.name := by
  refine ⟨userOf_sameShape _ _, ?_⟩
  rcases run_tells (fun fn _ => fn.elim) (userOf_sameShape "u1" "u2")
    (actorFirst ["user", "id"]) with ⟨a, b, ha, -⟩ | ⟨e, e', he, he', hname, -⟩
  · cases (actorFirst_run "u1" _).symm.trans ha
  · exact ⟨e, e', he, he', hname⟩

/-- The messages of the two tell by what the actors are known. -/
theorem run_shows_ids : (userOf "u1").SameShape (userOf "u2") ∧
    ∃ e e', (actorFirst ["user", "id"]).run (fun fn _ => fn.elim) (userOf "u1") = .error e ∧
      (actorFirst ["user", "id"]).run (fun fn _ => fn.elim) (userOf "u2") = .error e' ∧
      e.message? = some "Cannot normalize path: ActorRef(value='u1', source='actor.user.id')" ∧
      e'.message? = some "Cannot normalize path: ActorRef(value='u2', source='actor.user.id')" := by
  refine ⟨userOf_sameShape _ _, _, _, actorFirst_run "u1" _, actorFirst_run "u2" _, ?_, ?_⟩
  · exact congrArg some (by decide +kernel)
  · exact congrArg some (by decide +kernel)

end

end Call

end Clearance
