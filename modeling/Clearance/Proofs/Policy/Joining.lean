/-
  Joining policies.

  Joined policies decide an action as their declarative rules for it do one after the other, and
  it makes no difference whether policies are joined all at once or group by group.

  * `Run.Builds`: a run gives something and calls nothing for it;
  * `Junction.shortCircuit` runs decisions from left to right; decisions that are taken together
    first change nothing (`shortCircuit_append`, `same_joinRules`);
  * `declarative` are the rules that count, `declared` their expressions, `joined` is the policy
    that joining gives (`join_builds`);
  * `IsJoin` says what the joined policy is meant to be, `Alike` that two policies cannot be told
    apart;
  * `join_declarative`: joining gives what it is meant to, in groups as well as at once.
-/
import Clearance.Policy.Access
import Clearance.Proofs.Limits.Unlimited

namespace Clearance

variable {F : Type} {α β : Type} {config : Config}

/-! ## Runs that call nothing -/

/-- A run gives something, and the only thing it tells of are bare functions that it skipped. -/
def Run.Builds (run : Run F α) (a : α) : Prop :=
  ∃ new, run.ComesTo (.ok a) new ∧
    ∀ event ∈ new, ∃ action subject kind, event = .skipped action subject kind

namespace Run.Builds

variable {run : Run F α} {a : α}

theorem pure (a : α) : (pure a : Run F α).Builds a := ⟨[], .pure a, by simp⟩

theorem skipped (action subject : String) (kind : Junction) :
    (Run.record (.skipped action subject kind) : Run F Unit).Builds () := by
  refine ⟨_, .record _, fun event h => ?_⟩
  exact ⟨action, subject, kind, List.mem_singleton.1 h⟩

theorem bind {f : α → Run F β} {b : β} (h : run.Builds a) (hf : (f a).Builds b) :
    (run >>= f).Builds b := by
  obtain ⟨new, hr, hs⟩ := h
  obtain ⟨new', hr', hs'⟩ := hf
  refine ⟨new' ++ new, hr.bind hr', fun event he => ?_⟩
  rcases List.mem_append.1 he with he | he
  · exact hs' event he
  · exact hs event he

theorem result_eq (h : run.Builds a) : run.result = .ok a := by
  obtain ⟨new, hr, -⟩ := h
  exact hr.result_eq

end Run.Builds

/-! ## Junctions of runs -/

namespace Junction

/-- Runs decisions from left to right until one of them settles the junction. -/
def shortCircuit (kind : Junction) : List (Run F Bool) → Run F Bool
  | [] => return kind == .and
  | run :: rest => do
    let b ← run
    if b == (kind == .and) then shortCircuit kind rest else return b

variable {kind : Junction}

theorem shortCircuit_singleton (run : Run F Bool) : kind.shortCircuit [run] = run := by
  rw [shortCircuit]
  conv_rhs => rw [← bind_pure run]
  congr 1
  funext b
  split
  · rename_i hb
    rw [shortCircuit, beq_iff_eq.1 hb]
  · rfl

theorem shortCircuit_append (xs ys : List (Run F Bool)) :
    kind.shortCircuit (xs ++ ys) = (do
      let b ← kind.shortCircuit xs
      if b == (kind == .and) then kind.shortCircuit ys else return b) := by
  induction xs with
  | nil => rw [List.nil_append, shortCircuit, pure_bind, if_pos (beq_self_eq_true _)]
  | cons run rest ih =>
    rw [List.cons_append, shortCircuit, shortCircuit, bind_assoc]
    congr 1
    funext b
    split
    · exact ih
    · rename_i hb
      rw [pure_bind, if_neg hb]

theorem shortCircuit_same {runs runs' : List (Run F Bool)}
    (h : List.Forall₂ (Run.Same Bool) runs runs') :
    Run.Same Bool (kind.shortCircuit runs) (kind.shortCircuit runs') := by
  induction h with
  | nil => exact .pure _
  | cons hr _ ih =>
    rw [shortCircuit, shortCircuit]
    refine hr.bind fun b => ?_
    split
    · exact ih
    · exact .pure b

end Junction

theorem evaluateJunction_eq_shortCircuit [CharacterNames] (config : Config) (actor : Value)
    (onFunction : OnFunction F (Value → List String → Run F Bool)) (resources : Value)
    (opened : List String) (kind : Junction) (es : List (Expr F)) :
    evaluateJunction config actor onFunction resources opened kind es =
      kind.shortCircuit (es.map (evaluateNode config actor onFunction resources opened)) := by
  induction es with
  | nil => rw [evaluateJunction]; rfl
  | cons e rest ih => rw [evaluateJunction, List.map_cons, Junction.shortCircuit, ih]

/-- A junction is charged, and its rules are decided from left to right. -/
theorem Expr.evaluate_junction [CharacterNames] (config : Config) (call : Meaning F)
    (actor resources : Value) (kind : Junction) (es : List (Expr F)) :
    (Expr.junction kind es).evaluate config call actor resources = (do
      Run.charge config
      kind.shortCircuit (es.map fun e => e.evaluate config call actor resources)) := by
  unfold Expr.evaluate
  cases config.maxFunctionDepth <;>
    simp only [evaluateWithin, evaluateNode, evaluateJunction_eq_shortCircuit]

theorem Expr.evaluate_same [CharacterNames] (hl : config.maxExpressionNodes = none)
    (call : Meaning F) (actor resources : Value) (e : Expr F) :
    Run.Same Bool (e.evaluate config call actor resources)
      (e.evaluate config call actor resources) :=
  evaluateWithin_same hl call actor _ e resources []

theorem Rule.evaluate_of_toExpr [CharacterNames] {r : Rule F} {e : Expr F} (h : r.toExpr = .ok e)
    (call : Meaning F) (actor resources : Value) :
    r.evaluate config call actor resources = e.evaluate config call actor resources := by
  rw [Rule.evaluate, h]
  rfl

theorem Rule.evaluate_same [CharacterNames] (hl : config.maxExpressionNodes = none)
    (call : Meaning F) (actor resources : Value) (r : Rule F) :
    Run.Same Bool (r.evaluate config call actor resources)
      (r.evaluate config call actor resources) :=
  (Run.same_congruence hl).bind ((Run.same_congruence hl).ofResult _) fun e =>
    e.evaluate_same hl call actor resources

/-! ## Declarative rules -/

/-- Whether a rule is an expression or a truth value. -/
def Rule.isDeclarative : Rule F → Bool
  | .expr _ | .value (.bool _) => true
  | _ => false

/-- The expression of a declarative rule. -/
def Rule.declared? : Rule F → Option (Expr F)
  | .expr e => some e
  | .value (.bool b) => some (.literal b)
  | _ => none

namespace Policy

/-- The declarative rules that policies have for an action, in the order of the policies. -/
def declarative (name : String) (ps : List (Policy F)) : List (Rule F) :=
  (ps.filterMap fun p => p.action? name).filter Rule.isDeclarative

/-- The expressions of the declarative rules for an action. -/
def declared (name : String) (ps : List (Policy F)) : List (Expr F) :=
  ps.filterMap fun p => (p.action? name).bind Rule.declared?

theorem declared_cons (name : String) (p : Policy F) (ps : List (Policy F)) :
    declared name (p :: ps) = declared name [p] ++ declared name ps := by
  rw [← List.singleton_append, declared, List.filterMap_append]
  rfl

/-- A policy has at most one rule for an action. -/
theorem declared_singleton (name : String) (p : Policy F) :
    declared name [p] = ((p.action? name).bind Rule.declared?).toList := by
  rw [declared, List.filterMap_cons]
  cases (p.action? name).bind Rule.declared? <;> rfl

theorem declarative_toExpr (name : String) (ps : List (Policy F)) :
    List.Forall₂ (fun (r : Rule F) e => r.toExpr = .ok e) (declarative name ps)
      (declared name ps) := by
  induction ps with
  | nil => exact .nil
  | cons p rest ih =>
    rw [declared_cons, declared_singleton]
    unfold declarative at ih ⊢
    rw [List.filterMap_cons]
    rcases p.action? name with _ | e | ⟨fn, own⟩ | v
    · exact ih
    · exact .cons rfl ih
    · exact ih
    · cases v with
      | scalar s => cases s <;> first | exact ih | exact .cons rfl ih
      | _ => exact ih

/-- The declarative rules for an action are decided like their expressions. -/
theorem map_evaluate_declarative [CharacterNames] (call : Meaning F) (actor resources : Value)
    (name : String) (ps : List (Policy F)) :
    ((declarative name ps).map fun r => r.evaluate config call actor resources) =
      (declared name ps).map fun e => e.evaluate config call actor resources := by
  refine List.forall₂_eq_eq_eq ▸ List.forall₂_map_left_iff.2 (List.forall₂_map_right_iff.2 ?_)
  exact (declarative_toExpr name ps).imp fun r e h => r.evaluate_of_toExpr h call actor resources

theorem declarativeRules_builds (kind : Junction) (name : String) (ps : List (Policy F)) :
    (declarativeRules kind name ps).Builds (declared name ps) := by
  induction ps with
  | nil => exact .pure _
  | cons p rest ih =>
    rw [declared_cons, declared_singleton, declarativeRules]
    rcases p.action? name with _ | e | ⟨fn, own⟩ | v
    · exact ih
    · exact ih.bind (.pure _)
    · exact .bind (.skipped ..) ih
    · cases v with
      | scalar s => cases s <;> first | exact ih.bind (.pure _) | exact .bind (.skipped ..) ih
      | _ => exact .bind (.skipped ..) ih

/-! ## The joined policy -/

/-- The rule that joins the declarative rules of policies for an action. -/
def joinedRule (kind : Junction) (ps : List (Policy F)) (name : String) : Option (Rule F) :=
  (joinRules kind (declared name ps)).map Rule.expr

/-- What joining further policies to a first one gives. -/
def joined (kind : Junction) (p : Policy F) : List (Policy F) → Policy F
  | [] => p
  | rest =>
    ⟨p.subject, Keyed.tabulate (joinedRule kind (p :: rest)) (actionNames (p :: rest))⟩

theorem subject_joined (kind : Junction) (p : Policy F) (rest : List (Policy F)) :
    (joined kind p rest).subject = p.subject := by
  cases rest <;> rfl

theorem joinActions_builds (kind : Junction) (ps : List (Policy F)) (names : List String) :
    (joinActions kind ps names).Builds (Keyed.tabulate (joinedRule kind ps) names) := by
  induction names with
  | nil => exact .pure _
  | cons name rest ih =>
    refine (declarativeRules_builds kind name ps).bind (ih.bind ?_)
    unfold Keyed.tabulate joinedRule
    rw [List.filterMap_cons]
    cases joinRules kind (declared name ps) <;> exact .pure _

theorem join_builds (kind : Junction) (p : Policy F) (rest : List (Policy F)) :
    (join kind (p :: rest)).Builds (joined kind p rest) := by
  cases rest with
  | nil => exact .pure p
  | cons p' rest => exact (joinActions_builds kind _ _).bind (.pure _)

theorem joinRules_eq_none {kind : Junction} {es : List (Expr F)} :
    joinRules kind es = none ↔ es = [] := by
  match es with
  | [] | [e] | e :: e' :: rest => simp [joinRules]

theorem joinedRule_eq_none {kind : Junction} {ps : List (Policy F)} {name : String} :
    joinedRule kind ps name = none ↔ declared name ps = [] := by
  rw [joinedRule, Option.map_eq_none_iff, joinRules_eq_none]

theorem mem_actionNames {name : String} {ps : List (Policy F)} :
    name ∈ actionNames ps ↔ ∃ p ∈ ps, name ∈ p.actions.map Prod.fst := by
  rw [actionNames, Keyed.mem_keys_ofPairs]
  simp

theorem action?_eq_none {p : Policy F} {name : String} :
    p.action? name = none ↔ name ∉ p.actions.map Prod.fst := by
  rw [action?, List.lookup_eq_none_iff]
  simp only [bne_iff_ne, List.mem_map, not_exists, not_and]
  exact ⟨fun h a ha e => h a ha e.symm, fun h a ha e => h a ha e.symm⟩

/-- An action that no policy has is joined from nothing. -/
theorem declared_eq_nil {name : String} {ps : List (Policy F)} (h : name ∉ actionNames ps) :
    declared name ps = [] := by
  refine List.filterMap_eq_nil_iff.2 fun p hp => ?_
  rw [action?_eq_none.2 fun hm => h (mem_actionNames.2 ⟨p, hp, hm⟩)]
  rfl

theorem action?_joined (kind : Junction) (p p' : Policy F) (rest : List (Policy F))
    (name : String) :
    (joined kind p (p' :: rest)).action? name = joinedRule kind (p :: p' :: rest) name := by
  rw [action?, joined, Keyed.lookup_tabulate]
  · split
    · rfl
    · rename_i h
      exact (joinedRule_eq_none.2 (declared_eq_nil h)).symm
  · rintro ⟨⟩

/-- Joining leaves the joined rule for an action, as far as rules count. -/
theorem declared_joined (kind : Junction) (p : Policy F) (rest : List (Policy F))
    (name : String) :
    declared name [joined kind p rest] = (joinRules kind (declared name (p :: rest))).toList := by
  rw [declared_singleton]
  cases rest with
  | nil =>
    rw [declared_singleton, joined]
    cases (p.action? name).bind Rule.declared? <;> rfl
  | cons p' rest =>
    rw [action?_joined, joinedRule]
    cases joinRules kind (declared name (p :: p' :: rest)) <;> rfl

/-! ## Deciding with a joined policy -/

/-- The expressions of the declarative rules for an action are decided one after the other. -/
def decideDeclared [CharacterNames] (config : Config) (call : Meaning F) (kind : Junction)
    (actor resources : Value) (es : List (Expr F)) : Run F Bool :=
  kind.shortCircuit (es.map fun e => e.evaluate config call actor resources)

section

variable (hl : config.maxExpressionNodes = none) (call : Meaning F) (kind : Junction)
  (actor resources : Value)

include hl

theorem decideDeclared_same [CharacterNames] (es : List (Expr F)) :
    Run.Same Bool (decideDeclared config call kind actor resources es)
      (decideDeclared config call kind actor resources es) :=
  Junction.shortCircuit_same (List.forall₂_same.2 fun run h => by
    obtain ⟨e, -, rfl⟩ := List.mem_map.1 h
    exact e.evaluate_same hl call actor resources)

/-- Deciding some expressions by the rule that joins them changes nothing. -/
theorem evaluate_joinRules [CharacterNames] {es : List (Expr F)} {e : Expr F}
    (h : joinRules kind es = some e) :
    Run.Same Bool (e.evaluate config call actor resources)
      (decideDeclared config call kind actor resources es) := by
  have hes := decideDeclared_same hl call kind actor resources es
  match es, h with
  | [e], rfl =>
    rw [decideDeclared, List.map_singleton, Junction.shortCircuit_singleton] at hes ⊢
    exact hes
  | e :: e' :: rest, rfl =>
    rw [Expr.evaluate_junction]
    exact hes.charged hl

theorem same_joinRules [CharacterNames] (es : List (Expr F)) :
    Run.Same Bool (decideDeclared config call kind actor resources (joinRules kind es).toList)
      (decideDeclared config call kind actor resources es) := by
  cases h : joinRules kind es with
  | none =>
    cases es with
    | nil => exact .pure _
    | cons e rest => cases rest <;> cases h
  | some e =>
    rw [Option.toList_some, decideDeclared, List.map_singleton, Junction.shortCircuit_singleton]
    exact evaluate_joinRules hl call kind actor resources h

end

/-- A decision under a policy, given how it is come to. -/
def concluded (config : Config) (subject action : String) (run : Run F Bool) : Run F Decision := do
  let allowed ← run
  if config.logDecisions then Run.record (.decided subject action allowed)
  return ⟨allowed, subject, action⟩

theorem concluded_same {run run' : Run F Bool} (h : Run.Same Bool run run')
    (subject action : String) :
    Run.Same Decision (concluded config subject action run)
      (concluded config subject action run') := by
  refine h.bind fun allowed => ?_
  split
  · exact ⟨_, _, .bind (.record _) (.pure _), .bind (.record _) (.pure _)⟩
  · exact .pure _

theorem decision_of_action [CharacterNames] {p : Policy F} {action : String} {r : Rule F}
    (h : p.action? action = some r) (call : Meaning F) (actor resources : Value) :
    p.decision config call action actor resources =
      concluded config p.subject action (r.evaluate config call actor resources) := by
  rw [decision, Policy.action, h]
  rfl

theorem decision_of_none [CharacterNames] {p : Policy F} {action : String}
    (h : p.action? action = none) (call : Meaning F) (actor resources : Value) :
    p.decision config call action actor resources = Run.ofResult (.error
      (.unknownAction p.subject action (sortedNames (p.actions.map Prod.fst)))) := by
  rw [decision, Policy.action, h]
  rfl

/-! ## What joining is meant to give -/

/-- A policy decides for some policies together, the first of which is given. -/
structure IsJoin [CharacterNames] (config : Config) (call : Meaning F) (kind : Junction)
    (p : Policy F) (rest : List (Policy F)) (q : Policy F) : Prop where
  subject : q.subject = p.subject
  /-- An action is defined if one of the policies has an expression or a truth value for it. -/
  defines : ∀ action, q.defines action = true ↔
    ∃ p' ∈ p :: rest, ∃ r, p'.action? action = some r ∧ r.isDeclarative = true
  /-- It is then decided by these rules, from left to right; no other function is called than
      those that they call. -/
  decides : ∀ action actor resources, q.defines action = true → Run.Same Decision
    (q.decision config call action actor resources)
    (concluded config p.subject action (kind.shortCircuit
      ((declarative action (p :: rest)).map fun r => r.evaluate config call actor resources)))

/-- Two policies have one subject and the same actions, and decide alike. -/
structure Interchangeable [CharacterNames] (config : Config) (call : Meaning F) (p q : Policy F) :
    Prop where
  subject : p.subject = q.subject
  actions : (p.actions.map Prod.fst).Perm (q.actions.map Prod.fst)
  /-- What comes of a decision is the same, an error included, and so is what it logs. -/
  decides : ∀ action actor resources, Run.Same Decision
    (p.decision config call action actor resources) (q.decision config call action actor resources)

theorem sortedNames_congr {names names' : List String} (h : names.Perm names') :
    sortedNames names = sortedNames names' := by
  have hsorted : ∀ l : List String,
      (l.mergeSort fun a b => a ≤ b).Pairwise fun a b => decide (a ≤ b) = true := by
    refine List.pairwise_mergeSort (fun a b c hab hbc => ?_) fun a b => ?_
    · rw [decide_eq_true_iff] at hab hbc ⊢
      exact String.le_trans hab hbc
    · rw [Bool.or_eq_true, decide_eq_true_iff, decide_eq_true_iff]
      exact String.le_total a b
  have heq := List.Perm.eq_of_pairwise
    (fun a b _ _ hab hba => String.le_antisymm (of_decide_eq_true hab) (of_decide_eq_true hba))
    (hsorted names) (hsorted names')
    ((List.mergeSort_perm names _).trans (h.trans (List.mergeSort_perm names' _).symm))
  rw [sortedNames, sortedNames, heq]

/-- Policies with the same actions are interchangeable if their rules decide alike. -/
theorem Interchangeable.of_rules [CharacterNames] {call : Meaning F} {p q : Policy F}
    (hs : p.subject = q.subject)
    (ha : (p.actions.map Prod.fst).Perm (q.actions.map Prod.fst))
    (hr : ∀ action r r', p.action? action = some r → q.action? action = some r' →
      ∀ actor resources, Run.Same Bool (r.evaluate config call actor resources)
        (r'.evaluate config call actor resources)) :
    Interchangeable config call p q where
  subject := hs
  actions := ha
  decides action actor resources := by
    have hnone : p.action? action = none ↔ q.action? action = none := by
      rw [action?_eq_none, action?_eq_none, ha.mem_iff]
    cases hp : p.action? action with
    | none =>
      rw [decision_of_none hp, decision_of_none (hnone.1 hp), hs, sortedNames_congr ha]
      exact ⟨_, _, .ofResult _, .ofResult _⟩
    | some r =>
      obtain ⟨r', hq⟩ := Option.ne_none_iff_exists'.1 fun h => nomatch hp ▸ hnone.2 h
      rw [decision_of_action hp, decision_of_action hq, hs]
      exact concluded_same (hr action r r' hp hq actor resources) _ _

/-- A policy is interchangeable with itself. -/
theorem Interchangeable.refl [CharacterNames] (hl : config.maxExpressionNodes = none)
    (call : Meaning F) (p : Policy F) : Interchangeable config call p p :=
  .of_rules rfl (.refl _) fun action r r' h h' actor resources => by
    cases h.symm.trans h'
    exact r.evaluate_same hl call actor resources

theorem declared_ne_nil {name : String} {ps : List (Policy F)} :
    declared name ps ≠ [] ↔ ∃ p ∈ ps, ∃ r, p.action? name = some r ∧ r.isDeclarative = true := by
  have hlen := (declarative_toExpr name ps).length_eq
  rw [← List.length_pos_iff, ← hlen, List.length_pos_iff_exists_mem]
  simp only [declarative, List.mem_filter, List.mem_filterMap]
  exact ⟨fun ⟨r, ⟨p, hp, hr⟩, hd⟩ => ⟨p, hp, r, hr, hd⟩,
    fun ⟨p, hp, r, hr, hd⟩ => ⟨r, ⟨p, hp, hr⟩, hd⟩⟩

/-- At least two policies are joined as they should. -/
theorem isJoin_joined [CharacterNames] (hl : config.maxExpressionNodes = none) (call : Meaning F)
    (kind : Junction) (p p' : Policy F) (rest : List (Policy F)) :
    IsJoin config call kind p (p' :: rest) (joined kind p (p' :: rest)) where
  subject := rfl
  defines action := by
    rw [Policy.defines, action?_joined, Option.isSome_iff_ne_none, Ne, joinedRule_eq_none]
    exact declared_ne_nil
  decides action actor resources hd := by
    rw [Policy.defines, action?_joined] at hd
    obtain ⟨r, hr⟩ := Option.isSome_iff_exists.1 hd
    rw [decision_of_action (by rw [action?_joined, hr]), map_evaluate_declarative]
    obtain ⟨e, he, rfl⟩ := Option.map_eq_some_iff.1 hr
    exact concluded_same (evaluate_joinRules hl call kind actor resources he) _ _

/-! ## Joining in groups -/

/-- A policy is what a group of policies was joined to. -/
def StandsFor (kind : Junction) (group : List (Policy F)) (q : Policy F) : Prop :=
  ∃ p rest, group = p :: rest ∧ q = joined kind p rest

theorem mapM_join_builds (kind : Junction) {groups : List (List (Policy F))}
    (h : ∀ group ∈ groups, group ≠ []) : ∃ qs, (groups.mapM (join kind)).Builds qs ∧
      List.Forall₂ (StandsFor kind) groups qs := by
  induction groups with
  | nil => exact ⟨[], .pure [], .nil⟩
  | cons group groups ih =>
    obtain ⟨hg, hgs⟩ := List.forall_mem_cons.1 h
    obtain ⟨p, rest, rfl⟩ := List.exists_cons_of_ne_nil hg
    obtain ⟨qs, hqs, hs⟩ := ih hgs
    refine ⟨joined kind p rest :: qs, ?_, .cons ⟨p, rest, rfl, rfl⟩ hs⟩
    rw [List.mapM_cons]
    exact (join_builds kind p rest).bind (hqs.bind (.pure _))

section

variable {kind : Junction} {groups : List (List (Policy F))} {qs : List (Policy F)}

theorem declared_flatten_cons (name : String) (group : List (Policy F)) :
    declared name (group :: groups).flatten =
      declared name group ++ declared name groups.flatten := by
  rw [List.flatten_cons, declared, List.filterMap_append]
  rfl

theorem StandsFor.declared {group : List (Policy F)} {q : Policy F} (h : StandsFor kind group q)
    (name : String) :
    Policy.declared name [q] = (joinRules kind (Policy.declared name group)).toList := by
  obtain ⟨p, rest, rfl, rfl⟩ := h
  exact declared_joined kind p rest name

theorem declared_groups_eq_nil (h : List.Forall₂ (StandsFor kind) groups qs) (name : String) :
    declared name qs = [] ↔ declared name groups.flatten = [] := by
  induction h with
  | nil => exact Iff.rfl
  | cons hg _ ih =>
    rw [declared_cons, hg.declared, declared_flatten_cons, List.append_eq_nil_iff,
      List.append_eq_nil_iff, ih, Option.toList_eq_nil_iff, joinRules_eq_none]

/-- Settling each group by itself first changes nothing. -/
theorem decideDeclared_groups [CharacterNames] (hl : config.maxExpressionNodes = none)
    (call : Meaning F) (actor resources : Value) (h : List.Forall₂ (StandsFor kind) groups qs)
    (name : String) :
    Run.Same Bool (decideDeclared config call kind actor resources (declared name qs))
      (decideDeclared config call kind actor resources (declared name groups.flatten)) := by
  induction h with
  | nil => exact .pure _
  | @cons group q groups qs hg _ ih =>
    have hgroup := same_joinRules hl call kind actor resources (declared name group)
    rw [declared_cons, hg.declared, declared_flatten_cons]
    unfold decideDeclared at ih hgroup ⊢
    rw [List.map_append, List.map_append, Junction.shortCircuit_append,
      Junction.shortCircuit_append]
    refine hgroup.bind fun b => ?_
    split
    · exact ih
    · exact .pure b

end

theorem nodup_keys_joined (kind : Junction) (p p' : Policy F) (rest : List (Policy F)) :
    ((joined kind p (p' :: rest)).actions.map Prod.fst).Nodup := by
  rw [joined, Keyed.keys_tabulate]
  · exact (Keyed.nodup_keys_ofPairs _).filter _
  · rintro ⟨⟩

theorem mem_keys_joined {kind : Junction} {p p' : Policy F} {rest : List (Policy F)}
    {name : String} : name ∈ (joined kind p (p' :: rest)).actions.map Prod.fst ↔
      declared name (p :: p' :: rest) ≠ [] := by
  rw [← not_iff_not, ← action?_eq_none, action?_joined, joinedRule_eq_none, not_not]

/-- At least two groups are joined to the same as all of their policies at once. -/
theorem interchangeable_groups [CharacterNames] (hl : config.maxExpressionNodes = none)
    (call : Meaning F) {kind : Junction} {groups : List (List (Policy F))} {p p' q q' : Policy F}
    {rest qs : List (Policy F)} (h : List.Forall₂ (StandsFor kind) groups (q :: q' :: qs))
    (hflat : groups.flatten = p :: p' :: rest) (hs : q.subject = p.subject) :
    Interchangeable config call (joined kind q (q' :: qs)) (joined kind p (p' :: rest)) := by
  refine .of_rules hs ?_ fun action r r' hr hr' actor resources => ?_
  · refine (List.perm_ext_iff_of_nodup (nodup_keys_joined ..) (nodup_keys_joined ..)).2 ?_
    intro name
    rw [mem_keys_joined, mem_keys_joined, Ne, declared_groups_eq_nil h, hflat]
  · have hgroups := decideDeclared_groups hl call actor resources h action
    rw [action?_joined] at hr hr'
    obtain ⟨e, he, rfl⟩ := Option.map_eq_some_iff.1 hr
    obtain ⟨e', he', rfl⟩ := Option.map_eq_some_iff.1 hr'
    rw [← hflat] at he'
    exact (evaluate_joinRules hl call kind actor resources he).trans
      (hgroups.trans (evaluate_joinRules hl call kind actor resources he').symm)

/-- Joining group by group succeeds, as joining at once does, and comes to the same. -/
theorem exists_groups [CharacterNames] (hl : config.maxExpressionNodes = none) (call : Meaning F)
    (kind : Junction) {groups : List (List (Policy F))} (hne : groups ≠ [])
    (hg : ∀ group ∈ groups, group ≠ []) :
    ∃ q q', (join kind groups.flatten).Builds q ∧
      (do let qs ← groups.mapM (join kind); join kind qs).Builds q' ∧
      Interchangeable config call q' q := by
  obtain ⟨qs, hqs, hs⟩ := mapM_join_builds kind hg
  obtain ⟨group, groups, rfl⟩ := List.exists_cons_of_ne_nil hne
  obtain ⟨_, qs, ⟨p, rest, rfl, rfl⟩, htail, rfl⟩ := List.forall₂_cons_left_iff.1 hs
  cases htail with
  | nil =>
    -- a single group is joined once, and what it was joined to stays as it is
    refine ⟨joined kind p rest, joined kind p rest, ?_, hqs.bind (.pure _), .refl hl call _⟩
    rw [List.flatten_singleton]
    exact join_builds kind p rest
  | @cons next q' groups qs hnext htail =>
    have hrest : rest ++ (next :: groups).flatten ≠ [] := by
      obtain ⟨p', rest', rfl, -⟩ := hnext
      simp
    obtain ⟨p', rest', hrest⟩ := List.exists_cons_of_ne_nil hrest
    have hflat : ((p :: rest) :: next :: groups).flatten = p :: p' :: rest' := by
      rw [List.flatten_cons, List.cons_append, hrest]
    rw [hflat]
    exact ⟨_, _, join_builds kind p (p' :: rest'), hqs.bind (join_builds kind _ _),
      interchangeable_groups hl call hs hflat (subject_joined kind p rest)⟩

/-- **Joined policies decide by their declarative rules, and policies may be joined in groups.**
    With no limit on the nodes, joining at least two policies gives a policy that decides every
    action as their declarative rules for it do one after the other; and joining groups of
    policies, of a single policy too, and then what they were joined to gives nothing else than
    joining all of them at once. -/
theorem join_declarative [CharacterNames] (hl : config.maxExpressionNodes = none) (call : Meaning F)
    (kind : Junction) :
    (∀ p p' rest, ∃ q, (join kind (p :: p' :: rest)).Builds q ∧
      IsJoin config call kind p (p' :: rest) q) ∧
    ∀ groups, groups ≠ [] → (∀ group ∈ groups, group ≠ []) →
      ∃ q q', (join kind groups.flatten).Builds q ∧
        (do let qs ← groups.mapM (join kind); join kind qs).Builds q' ∧
        Interchangeable config call q' q :=
  ⟨fun p p' rest => ⟨_, join_builds kind p (p' :: rest), isJoin_joined hl call kind p p' rest⟩,
    fun _ hne hg => exists_groups hl call kind hne hg⟩

section

attribute [local instance] CharacterNames.empty

/-- Nobody may read the notes of the first policy, so nothing fails where the third has a rule that
    does; the bare function of the second is not called, and an action that has nothing but a bare
    function is dropped. -/
theorem join_declarative_of_notes :
    let fails : Meaning Unit := fun _ _ => .error .invalidOperation
    let mine : Policy Unit :=
      ⟨"Note", [("read", .value (.bool false)), ("drop", .function () "any")]⟩
    let yours : Policy Unit := ⟨"Memo", [("read", .function () "any")]⟩
    let theirs : Policy Unit := ⟨"Memo", [("read", .expr (.function () "any"))]⟩
    ∃ q q', (join .and [mine, yours, theirs]).result = .ok q ∧
      (do let qs ← [[mine], [yours, theirs]].mapM (join .and); join .and qs).result = .ok q' ∧
      q.defines "drop" = false ∧
      (q.decision {} fails "read" .null .null).result = .ok ⟨false, "Note", "read"⟩ ∧
      (q'.decision {} fails "read" .null .null).result =
        (q.decision {} fails "read" .null .null).result := by
  intro fails mine yours theirs
  obtain ⟨hjoin, hgroups⟩ := @join_declarative Unit {} _ rfl fails .and
  obtain ⟨q, hq, his⟩ := hjoin mine yours [theirs]
  obtain ⟨q₀, q', hq₀, hq', hi⟩ := hgroups [[mine], [yours, theirs]] (by simp) (by simp)
  obtain rfl : q₀ = q := Except.ok.inj (hq₀.result_eq.symm.trans hq.result_eq)
  have hread : q₀.defines "read" = true := (his.defines "read").2
    ⟨mine, by simp, .value (.bool false), rfl, rfl⟩
  refine ⟨q₀, q', hq.result_eq, hq'.result_eq, ?_, (his.decides "read" .null .null hread).result_eq,
    (hi.decides "read" .null .null).result_eq⟩
  rw [← Bool.not_eq_true, his.defines]
  rintro ⟨p, hp, r, hr, hd⟩
  simp only [List.mem_cons, List.not_mem_nil, or_false] at hp
  rcases hp with rfl | rfl | rfl
  · cases (show some (.function () "any") = some r from hr)
    cases hd
  · cases (show none = some r from hr)
  · cases (show none = some r from hr)

end

end Policy

end Clearance
