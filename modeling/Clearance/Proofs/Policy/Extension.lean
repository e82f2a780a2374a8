/-
  Extending a policy.

  A policy is extended by overlays, one after the other.  An action that a policy and an overlay
  both have a rule for gets the conjunction of the two; any other action keeps the one rule that
  there is.  So an action of an extended policy is made of layers: the rule of the base, if it has
  one, and then the rules of the overlays.

  * `Policy.Proper`: what a policy that was made is like; `extend_proper` extends it by an overlay;
  * `Policy.Narrows` and `Policy.Layers`: what one overlay, and several, make of the rule of an
    action;
  * `Policy.Allows`: the rule of an action is decided positively, if there is one; layers allow what
    each of them allows (`Layers.allows`), and without a limit on the nodes also the other way round
    (`Layers.allows_of_all`);
  * `extend_restricts`: an extended policy allows no more than its base and each of its overlays.
-/
import Clearance.Proofs.Limits.Headroom
import Clearance.Proofs.Policy.Joining

namespace Clearance

variable {F : Type} {config : Config} {call : Meaning F} {actor resources : Value}

namespace Policy

/-! ## Overlays -/

/-- What a policy is extended by: further rules, and another subject if one is given. -/
structure Overlay (F : Type) where
  actions : List (String × Rule F)
  subject : Option Value

/-- The rule of an overlay for an action, if there is one. -/
def Overlay.rule? (o : Overlay F) (name : String) : Option (Rule F) :=
  (Keyed.ofPairs o.actions).lookup name

/-- An overlay that a policy can be extended by: its rules are expressions, truth values and bare
    functions, and its subject is a name. -/
structure Overlay.Proper (o : Overlay F) : Prop where
  rules : ∀ a ∈ o.actions, isRule a.2 = true
  subject : ∀ v, o.subject = some v → ∃ s, v = .str s ∧ s.isEmpty = false

/-- A policy extended by overlays, one after the other. -/
def extendAll (p : Policy F) (overlays : List (Overlay F)) : Result (Policy F) :=
  overlays.foldlM (fun p o => p.extend o.actions o.subject) p

/-- A policy as it is made: named, with one rule for each of its actions. -/
structure Proper (p : Policy F) : Prop where
  subject : p.subject.isEmpty = false
  nodup : (p.actions.map Prod.fst).Nodup
  rules : ∀ a ∈ p.actions, isRule a.2 = true

theorem isRule_iff {r : Rule F} : isRule r = true ↔ ∃ e, r.toExpr = .ok e := by
  cases r with
  | expr e => exact iff_of_true rfl ⟨e, rfl⟩
  | function fn name => exact iff_of_true rfl ⟨_, rfl⟩
  | value v =>
    cases v with
    | scalar s => cases s <;> simp [isRule, Rule.toExpr]
    | _ => simp [isRule, Rule.toExpr]

theorem checkActions_eq_ok {actions : List (String × Rule F)} :
    checkActions actions = .ok () ↔ ∀ a ∈ actions, isRule a.2 = true := by
  unfold checkActions
  cases h : actions.find? fun a => !isRule a.2 with
  | none =>
    rw [List.find?_eq_none] at h
    exact iff_of_true rfl fun a ha => by simpa using h a ha
  | some a =>
    refine iff_of_false nofun fun hall => ?_
    have hn := List.find?_some h
    rw [hall a (List.mem_of_find?_eq_some h)] at hn
    cases hn

theorem ofActions_eq_ok {subject : Value} {actions : List (String × Rule F)} {p : Policy F} :
    ofActions subject actions = .ok p ↔ ∃ s, subject = .str s ∧ s.isEmpty = false ∧
      (∀ a ∈ Keyed.ofPairs actions, isRule a.2 = true) ∧ p = ⟨s, Keyed.ofPairs actions⟩ := by
  have hstr : ∀ s : String, ofActions (.str s) actions = (if s.isEmpty then .error .badSubject else do
      checkActions (Keyed.ofPairs actions)
      return ⟨s, Keyed.ofPairs actions⟩) := by
    intro s
    rw [ofActions]
    cases s.isEmpty <;> rfl
  constructor
  · intro h
    cases subject with
    | scalar v =>
      cases v with
      | str s =>
        rw [hstr] at h
        split at h
        · cases h
        · rename_i hs
          obtain ⟨⟨⟩, hc, h⟩ := Result.bind_eq_ok.1 h
          cases h
          exact ⟨s, rfl, by simpa using hs, checkActions_eq_ok.1 hc, rfl⟩
      | _ => cases h
    | _ => cases h
  · rintro ⟨s, rfl, hs, hr, rfl⟩
    rw [hstr, hs, checkActions_eq_ok.2 hr]
    rfl

/-- What is made as a policy is a proper one. -/
theorem proper_of_ofActions {subject : Value} {actions : List (String × Rule F)} {p : Policy F}
    (h : ofActions subject actions = .ok p) : p.Proper := by
  obtain ⟨s, -, hs, hr, rfl⟩ := ofActions_eq_ok.1 h
  exact ⟨hs, Keyed.nodup_keys_ofPairs actions, hr⟩

/-! ## One overlay -/

/-- What an overlay makes of the rule of an action. -/
inductive Narrows : Option (Rule F) → Option (Rule F) → Option (Rule F) → Prop
  | kept (old) : Narrows old none old
  | added (r) : Narrows none (some r) (some r)
  | joined {old r e e'} : old.toExpr = .ok e → r.toExpr = .ok e' →
      Narrows (some old) (some r) (some (.expr (.junction .and [e, e'])))

theorem Narrows.eq_of_none {old new : Option (Rule F)} (h : Narrows old none new) : new = old := by
  cases h
  rfl

/-- Adding a rule narrows its action, and leaves the others. -/
theorem addRule_narrows {actions : List (String × Rule F)} {name : String} {r : Rule F}
    (ha : ∀ a ∈ actions, isRule a.2 = true) (hr : isRule r = true) : ∃ new : Rule F,
      addRule actions name r = .ok (Keyed.setKey name new actions) ∧ isRule new = true ∧
        Narrows (actions.lookup name) (some r) (some new) := by
  obtain ⟨e', he'⟩ := isRule_iff.1 hr
  unfold addRule
  cases hl : actions.lookup name with
  | none => exact ⟨r, rfl, hr, .added r⟩
  | some old =>
    obtain ⟨e, he⟩ := isRule_iff.1 (ha _ (Keyed.mem_of_lookup hl))
    refine ⟨.expr (.junction .and [e, e']), ?_, rfl, .joined he he'⟩
    simp only [Operator.junction, List.mapM_cons, List.mapM_nil, he, he']
    rfl

/-- Adding rules for different actions narrows each of them. -/
theorem addRules_narrows {added : List (String × Rule F)} (hn : (added.map Prod.fst).Nodup)
    (hr : ∀ a ∈ added, isRule a.2 = true) : ∀ {actions : List (String × Rule F)},
    (actions.map Prod.fst).Nodup → (∀ a ∈ actions, isRule a.2 = true) →
    ∃ merged, added.foldlM (fun merged a => addRule merged a.1 a.2) actions = .ok merged ∧
      (merged.map Prod.fst).Nodup ∧ (∀ a ∈ merged, isRule a.2 = true) ∧
      ∀ name, Narrows (actions.lookup name) (added.lookup name) (merged.lookup name) := by
  induction added with
  | nil => exact fun h hr => ⟨_, rfl, h, hr, fun name => .kept _⟩
  | cons a rest ih =>
    intro actions h ha
    obtain ⟨name, r⟩ := a
    obtain ⟨hname, hrest⟩ := List.nodup_cons.1 hn
    obtain ⟨hr, hrules⟩ := List.forall_mem_cons.1 hr
    obtain ⟨new, hnew, hisRule, hnarrows⟩ := addRule_narrows ha hr
    have hset : ∀ a ∈ Keyed.setKey name new actions, isRule a.2 = true := by
      intro a hm
      rcases Keyed.mem_setKey hm with rfl | hm
      · exact hisRule
      · exact ha a hm
    obtain ⟨merged, hmerged, hnodup, hall, hlayers⟩ :=
      ih hrest hrules (Keyed.nodup_keys_setKey name new h) hset
    refine ⟨merged, ?_, hnodup, hall, fun other => ?_⟩
    · rw [List.foldlM_cons, hnew]
      exact hmerged
    · have hother := hlayers other
      rw [List.lookup_cons]
      by_cases e : other = name
      · subst e
        have hnone : rest.lookup other = none :=
          action?_eq_none (p := ⟨"", rest⟩).2 hname
        rw [Keyed.lookup_setKey_self, hnone] at hother
        rw [beq_self_eq_true, hother.eq_of_none]
        exact hnarrows
      · rw [Keyed.lookup_setKey_of_ne e] at hother
        rw [beq_eq_false_iff_ne.2 e]
        exact hother

/-- **Extending a policy by an overlay** gives a proper policy, in which each action is narrowed. -/
theorem extend_proper {p : Policy F} (hp : p.Proper) {o : Overlay F} (ho : o.Proper) :
    ∃ q, p.extend o.actions o.subject = .ok q ∧ q.Proper ∧
      ∀ name, Narrows (p.action? name) (o.rule? name) (q.action? name) := by
  obtain ⟨merged, hmerged, hnodup, hrules, hnarrows⟩ := addRules_narrows
    (Keyed.nodup_keys_ofPairs o.actions) (fun a ha => ho.rules a (Keyed.mem_ofPairs ha)) hp.nodup
    hp.rules
  obtain ⟨s, hs, hne⟩ : ∃ s, o.subject.getD (.str p.subject) = .str s ∧ s.isEmpty = false := by
    cases h : o.subject with
    | none => exact ⟨p.subject, rfl, hp.subject⟩
    | some v => exact ho.subject v h
  have hq : ofActions (.str s) merged = .ok ⟨s, merged⟩ := ofActions_eq_ok.2
    ⟨s, rfl, hne, by rwa [Keyed.ofPairs_of_nodup hnodup], by rw [Keyed.ofPairs_of_nodup hnodup]⟩
  refine ⟨⟨s, merged⟩, ?_, ⟨hne, hnodup, hrules⟩, hnarrows⟩
  rw [extend, hmerged, hs]
  exact hq

/-! ## Several overlays -/

/-- What overlays make of the rule of an action, one after the other. -/
inductive Layers : Option (Rule F) → List (Option (Rule F)) → Option (Rule F) → Prop
  | base (old) : Layers old [] old
  | overlaid {old r new rest last} : Narrows old r new → Layers new rest last →
      Layers old (r :: rest) last

theorem extendAll_proper {p : Policy F} (hp : p.Proper) {overlays : List (Overlay F)}
    (ho : ∀ o ∈ overlays, o.Proper) : ∃ q, extendAll p overlays = .ok q ∧ q.Proper ∧
      ∀ name, Layers (p.action? name) (overlays.map fun o => o.rule? name) (q.action? name) := by
  induction overlays generalizing p with
  | nil => exact ⟨p, rfl, hp, fun name => .base _⟩
  | cons o rest ih =>
    obtain ⟨ho, hrest⟩ := List.forall_mem_cons.1 ho
    obtain ⟨p', hp', hproper, hnarrows⟩ := extend_proper hp ho
    obtain ⟨q, hq, hqproper, hlayers⟩ := ih hproper hrest
    refine ⟨q, ?_, hqproper, fun name => .overlaid (hnarrows name) (hlayers name)⟩
    rw [extendAll, List.foldlM_cons, hp']
    exact hq

namespace Layers

variable {old last : Option (Rule F)} {rules : List (Option (Rule F))}

/-- There is a rule for an action if some layer has one. -/
theorem isSome_iff (h : Layers old rules last) :
    last.isSome = true ↔ old.isSome = true ∨ ∃ r ∈ rules, r.isSome = true := by
  induction h with
  | base => simp
  | overlaid hn _ ih =>
    rw [ih]
    cases hn <;> simp

/-- Where no overlay has a rule, the rule stays. -/
theorem eq_of_none (h : Layers old rules last) (hr : ∀ r ∈ rules, r = none) : last = old := by
  induction h with
  | base => rfl
  | overlaid hn _ ih =>
    obtain ⟨rfl, hrest⟩ := List.forall_mem_cons.1 hr
    rw [ih hrest, hn.eq_of_none]

/-- Where there is a rule in one overlay only, it is taken over. -/
theorem eq_of_one {before after : List (Option (Rule F))} {r : Rule F}
    (h : Layers none (before ++ some r :: after) last) (hb : ∀ r ∈ before, r = none)
    (ha : ∀ r ∈ after, r = none) : last = some r := by
  induction before with
  | nil =>
    cases h with
    | overlaid hn hlayers =>
      cases hn
      exact hlayers.eq_of_none ha
  | cons r' before ih =>
    obtain ⟨rfl, hbefore⟩ := List.forall_mem_cons.1 hb
    cases h with
    | overlaid hn hlayers =>
      rw [hn.eq_of_none] at hlayers
      exact ih hlayers hbefore

end Layers

/-! ## What layers allow -/

/-- A rule is decided positively, if there is one. -/
def Allows [CharacterNames] (config : Config) (call : Meaning F) (actor resources : Value)
    (r : Option (Rule F)) :
    Prop :=
  ∀ rule, r = some rule → (rule.evaluate config call actor resources).result = .ok true

/-- A conjunction that is decided positively is so for both of its rules, wherever that is. -/
theorem of_shortCircuit_and {run run' : Run F Bool} {t : Tally F}
    (h : ((Junction.and.shortCircuit [run, run']).outcomeFrom t).1 = .ok true) :
    (∃ t', (run.outcomeFrom t').1 = .ok true) ∧ ∃ t', (run'.outcomeFrom t').1 = .ok true := by
  rw [Junction.shortCircuit] at h
  cases ho : run.outcomeFrom t with
  | mk r u =>
    cases r with
    | error err =>
      rw [Run.outcomeFrom_bind_of_error ho] at h
      cases h
    | ok b =>
      rw [Run.outcomeFrom_bind_of_ok ho] at h
      cases b with
      | false => cases h
      | true =>
        refine ⟨⟨t, by rw [ho]⟩, u, ?_⟩
        rwa [if_pos (by rfl), Junction.shortCircuit_singleton] at h

/-- **A narrowed rule allows no more** than the rule before and the one that was added, each alone
    and under the same limits. -/
theorem Narrows.allows [CharacterNames] {old r new : Option (Rule F)} (h : Narrows old r new)
    (ha : Allows config call actor resources new) :
    Allows config call actor resources old ∧ Allows config call actor resources r := by
  cases h with
  | kept old => exact ⟨ha, nofun⟩
  | added r => exact ⟨nofun, ha⟩
  | @joined old r e e' he he' =>
    have hjunction : ((Run.charge config >>= fun _ => Junction.and.shortCircuit
        [e.evaluate config call actor resources,
          e'.evaluate config call actor resources]).outcomeFrom {}).1 = .ok true := by
      have hresult := ha _ rfl
      rw [Rule.evaluate_of_toExpr rfl, Expr.evaluate_junction] at hresult
      exact hresult
    obtain ⟨⟨⟩, t, -, hand⟩ := Run.outcomeFrom_bind_ok hjunction
    obtain ⟨⟨t, ht⟩, t', ht'⟩ := of_shortCircuit_and hand
    constructor
    · rintro _ ⟨⟩
      rw [Rule.evaluate_of_toExpr he]
      exact Expr.result_eq_of_outcomeFrom ht
    · rintro _ ⟨⟩
      rw [Rule.evaluate_of_toExpr he']
      exact Expr.result_eq_of_outcomeFrom ht'

/-- Without a limit on the nodes, a narrowed rule allows what both allow. -/
theorem Narrows.allows_of_both [CharacterNames] (hl : config.maxExpressionNodes = none)
    {old r new : Option (Rule F)} (h : Narrows old r new)
    (ha : Allows config call actor resources old) (hb : Allows config call actor resources r) :
    Allows config call actor resources new := by
  cases h with
  | kept old => exact ha
  | added r => exact hb
  | @joined old r e e' he he' =>
    rintro _ ⟨⟩
    have hold := ha old rfl
    have hnew := hb r rfl
    rw [Rule.evaluate_of_toExpr he] at hold
    rw [Rule.evaluate_of_toExpr he'] at hnew
    -- Without a limit both rules come to the same wherever they stand.
    obtain ⟨_, events, hc, -⟩ := e.evaluate_same hl call actor resources
    obtain ⟨_, events', hc', -⟩ := e'.evaluate_same hl call actor resources
    cases hc.result_eq.symm.trans hold
    cases hc'.result_eq.symm.trans hnew
    rw [← @Junction.shortCircuit_singleton F .and (e'.evaluate config call actor resources)] at hc'
    have hand : (Junction.and.shortCircuit [e.evaluate config call actor resources,
        e'.evaluate config call actor resources]).ComesTo (.ok true) (events' ++ events) :=
      hc.bind hc'
    rw [Rule.evaluate_of_toExpr rfl, Expr.evaluate_junction]
    exact ((Run.ComesTo.charge hl).bind hand).result_eq

namespace Layers

variable {old last : Option (Rule F)} {rules : List (Option (Rule F))}

/-- Layers allow no more than the rule of the base and each of the others alone. -/
theorem allows [CharacterNames] (h : Layers old rules last)
    (ha : Allows config call actor resources last) :
    Allows config call actor resources old ∧
      ∀ r ∈ rules, Allows config call actor resources r := by
  induction h with
  | base => exact ⟨ha, nofun⟩
  | overlaid hn _ ih =>
    obtain ⟨hnew, hrest⟩ := ih ha
    obtain ⟨hold, hr⟩ := hn.allows hnew
    exact ⟨hold, List.forall_mem_cons.2 ⟨hr, hrest⟩⟩

/-- Without a limit on the nodes, layers allow what all of them allow. -/
theorem allows_of_all [CharacterNames] (hl : config.maxExpressionNodes = none)
    (h : Layers old rules last) (hold : Allows config call actor resources old)
    (hr : ∀ r ∈ rules, Allows config call actor resources r) :
    Allows config call actor resources last := by
  induction h with
  | base => exact hold
  | overlaid hn _ ih =>
    obtain ⟨hfirst, hrest⟩ := List.forall_mem_cons.1 hr
    exact ih (hn.allows_of_both hl hold hfirst) hrest

end Layers

/-! ## Extended policies -/

/-- An action is decided by its rule, whether the decision is logged or not. -/
theorem can_of_action [CharacterNames] {p : Policy F} {name : String} {r : Rule F}
    (h : p.action? name = some r) :
    (p.can config call name actor resources).result =
      (r.evaluate config call actor resources).result := by
  rw [can, decision_of_action h, concluded, Run.result_eq, Run.result_eq]
  cases ho : (r.evaluate config call actor resources).outcomeFrom {} with
  | mk outcome t =>
    cases outcome with
    | error err =>
      rw [Run.outcomeFrom_bind_of_error (Run.outcomeFrom_bind_of_error ho)]
    | ok b =>
      rw [bind_assoc, Run.outcomeFrom_bind_of_ok ho]
      cases config.logDecisions <;> rfl

theorem can_eq_true_iff [CharacterNames] {p : Policy F} {name : String} :
    (p.can config call name actor resources).result = .ok true ↔
      p.defines name = true ∧ Allows config call actor resources (p.action? name) := by
  unfold defines Allows
  cases h : p.action? name with
  | some r => simp [can_of_action h]
  | none =>
    refine iff_of_false (fun hc => ?_) (fun ⟨hd, _⟩ => nomatch hd)
    rw [can, decision_of_none h] at hc
    cases hc

/-- An extended policy allows no more than its base and its overlays. -/
structure Restricts [CharacterNames] (config : Config) (call : Meaning F) (p : Policy F)
    (overlays : List (Overlay F)) (q : Policy F) : Prop where
  /-- The actions are those of the base and of the overlays. -/
  defines : ∀ name, q.defines name = true ↔
    p.defines name = true ∨ ∃ o ∈ overlays, (o.rule? name).isSome = true
  /-- What is allowed is allowed under the base, and by each rule of an overlay alone. -/
  allows : ∀ name actor resources, (q.can config call name actor resources).result = .ok true →
    (p.defines name = true → (p.can config call name actor resources).result = .ok true) ∧
      ∀ o ∈ overlays, ∀ r, o.rule? name = some r →
        (r.evaluate config call actor resources).result = .ok true
  /-- Without a limit on the nodes, what all of them allow is allowed. -/
  allows_of_all : config.maxExpressionNodes = none → ∀ name actor resources,
    q.defines name = true →
    (p.defines name = true → (p.can config call name actor resources).result = .ok true) →
    (∀ o ∈ overlays, ∀ r, o.rule? name = some r →
      (r.evaluate config call actor resources).result = .ok true) →
    (q.can config call name actor resources).result = .ok true
  /-- An action of the base that no overlay has a rule for is decided as it is under the base. -/
  ofBase : ∀ name actor resources, p.defines name = true →
    (∀ o ∈ overlays, o.rule? name = none) →
    (q.can config call name actor resources).result =
      (p.can config call name actor resources).result
  /-- An action with a rule in one overlay only is decided by that rule. -/
  ofOverlay : ∀ name actor resources before o after r, overlays = before ++ o :: after →
    p.defines name = false → (∀ o' ∈ before ++ after, o'.rule? name = none) →
    o.rule? name = some r → (q.can config call name actor resources).result =
      (r.evaluate config call actor resources).result

theorem restricts_of_layers [CharacterNames] {p q : Policy F} {overlays : List (Overlay F)}
    (h : ∀ name, Layers (p.action? name) (overlays.map fun o => o.rule? name) (q.action? name)) :
    Restricts config call p overlays q where
  defines name := by
    rw [Policy.defines, Policy.defines, (h name).isSome_iff]
    simp
  allows name actor resources hc := by
    obtain ⟨-, hq⟩ := can_eq_true_iff.1 hc
    obtain ⟨hbase, hrules⟩ := (h name).allows hq
    exact ⟨fun hd => can_eq_true_iff.2 ⟨hd, hbase⟩,
      fun o ho => hrules _ (List.mem_map_of_mem ho)⟩
  allows_of_all hl name actor resources hd hbase hrules := by
    refine can_eq_true_iff.2 ⟨hd, (h name).allows_of_all hl (fun r hr => ?_) fun r hr => ?_⟩
    · have hdefines : p.defines name = true := by rw [Policy.defines, hr]; rfl
      exact (can_eq_true_iff.1 (hbase hdefines)).2 r hr
    · obtain ⟨o, ho, rfl⟩ := List.mem_map.1 hr
      exact hrules o ho
  ofBase name actor resources hd hnone := by
    obtain ⟨r, hr⟩ := Option.isSome_iff_exists.1 hd
    have hq : q.action? name = p.action? name :=
      (h name).eq_of_none (List.forall_mem_map.2 hnone)
    rw [can_of_action hr, can_of_action (hq.trans hr)]
  ofOverlay name actor resources before o after r hsplit hd hnone hr := by
    have hbase : p.action? name = none := Option.isNone_iff_eq_none.1 (Option.isSome_eq_false_iff.1 hd)
    have hlayers : Layers none ((before.map fun o => o.rule? name) ++ some r ::
        after.map fun o => o.rule? name) (q.action? name) := by
      have hlayers := h name
      rw [hsplit, List.map_append, List.map_cons, hr, hbase] at hlayers
      exact hlayers
    obtain ⟨hbefore, hafter⟩ := List.forall_mem_append.1 hnone
    exact can_of_action (hlayers.eq_of_one (List.forall_mem_map.2 hbefore)
      (List.forall_mem_map.2 hafter))

/-- **Extending a policy can only restrict it.**  Extending a policy by overlays, one after the
    other, gives a policy with the actions of all of them; what it allows, under whatever limits, is
    allowed under the base and by the rules of the overlays, and what all of these allow it allows if
    there is no limit on the nodes. -/
theorem extend_restricts [CharacterNames] (config : Config) (call : Meaning F) {subject : Value}
    {actions : List (String × Rule F)} {p : Policy F} (hp : ofActions subject actions = .ok p)
    {overlays : List (Overlay F)} (ho : ∀ o ∈ overlays, o.Proper) :
    ∃ q, extendAll p overlays = .ok q ∧ Restricts config call p overlays q := by
  obtain ⟨q, hq, -, hlayers⟩ := extendAll_proper (proper_of_ofActions hp) ho
  exact ⟨q, hq, restricts_of_layers hlayers⟩

/-- Notes may be read by whom a function allows it. -/
def notes : Policy Unit := ⟨"Note", [("read", .function () "any")]⟩

/-- A first overlay leaves them to their owners, a second one adds that they may be shared. -/
def ownNotes : List (Overlay Unit) :=
  [⟨[("read", .expr (.comparison .eq ⟨false, "note", "owner"⟩ (.scalar (.int 7))))], none⟩,
    ⟨[("read", .value (.bool true)), ("share", .value (.bool true))], some (.str "Memo")⟩]

theorem ownNotes_proper : ∀ o ∈ ownNotes, o.Proper := by
  intro o ho
  simp only [ownNotes, List.mem_cons, List.not_mem_nil, or_false] at ho
  rcases ho with rfl | rfl
  · exact ⟨by simp [isRule], nofun⟩
  · refine ⟨by simp [isRule], ?_⟩
    rintro _ ⟨⟩
    exact ⟨"Memo", rfl, by decide⟩

section

attribute [local instance] CharacterNames.empty

/-- Six nodes are enough for the owner to read a note, and then also under the rules that the
    decision is made of. -/
theorem extend_restricts_of_notes :
    let anyone : Meaning Unit := fun _ _ => .ok (.value (.bool true))
    let note : Value := .dict [("note", .dict [("owner", .int 7)])]
    ofActions (.str "Note") notes.actions = .ok notes ∧
    ∃ q, extendAll notes ownNotes = .ok q ∧
      (q.can { maxExpressionNodes := some 6 } anyone "read" .null note).result = .ok true ∧
      (notes.can { maxExpressionNodes := some 6 } anyone "read" .null note).result = .ok true ∧
      q.defines "share" = true := by
  intro anyone note
  have hnotes : ofActions (.str "Note") notes.actions = .ok notes := rfl
  obtain ⟨q, hq, hrestricts⟩ :=
    extend_restricts { maxExpressionNodes := some 6 } anyone hnotes ownNotes_proper
  have hread : (q.can { maxExpressionNodes := some 6 } anyone "read" .null note).result =
      .ok true := by
    cases hq
    rfl
  refine ⟨hnotes, q, hq, hread, ?_, ?_⟩
  · exact (hrestricts.allows "read" .null note hread).1 rfl
  · exact (hrestricts.defines "share").2 (.inr ⟨_, List.mem_cons_of_mem _ List.mem_cons_self, rfl⟩)

end

end Policy

end Clearance
