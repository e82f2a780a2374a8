/-
  Limits never change an answer.

  A limit stops a run, or else the outcome of the run is what it is without the limit; when a
  limit on the nodes does so is known from the nodes that the run charges without it.

  * `Run.Limited`: a run against the same run with a limit on the nodes;
  * `Run.Deepened`: a run against the same run with more depth for functions;
  * `Run.KeepsOutcome`: what the limits do to a run that depends on the configuration;
  * `Rule.limits_keep_outcome`: deciding and compiling are such runs, and compiling charges the
    nodes of the rule and of all that its functions return.
-/
import Clearance.Proofs.Filter.Declared
import Clearance.Proofs.Filter.Tally
import Clearance.Proofs.Limits.Congruence

namespace Clearance

open Sql

variable {F : Type} {config : Config} {call : Meaning F} {d : Declarations} {actor : Value}

/-- A configuration with some limit on the nodes of a run, or with none. -/
def Config.withNodes (config : Config) (limit : Option Nat) : Config :=
  { config with maxExpressionNodes := limit }

/-- A configuration with some limit on the depth of functions. -/
def Config.withDepth (config : Config) (depth : Nat) : Config :=
  { config with maxFunctionDepth := depth }

/-- A result is the error that functions are nested too deeply. -/
def Result.IsTooDeep {α : Type} (r : Result α) : Prop :=
  ∃ err, r = .error err ∧ err.category? = some .functionDepthExceeded

namespace Run

/-! ## Nodes -/

/-- A run against the same run with a limit: no node is given back, and a run that starts within
    the limit has the same outcome if it ends within the limit, and is stopped if it does not. -/
def Limited (limit : Nat) (α : Type) (run limited : Run F α) : Prop :=
  ∀ t, t.nodes ≤ (run.outcomeFrom t).2.nodes ∧ (t.nodes ≤ limit →
    ((run.outcomeFrom t).2.nodes ≤ limit → limited.outcomeFrom t = run.outcomeFrom t) ∧
    (limit < (run.outcomeFrom t).2.nodes →
      (limited.outcomeFrom t).1 = .error (.budgetExceeded limit)))

namespace Limited

variable {limit : Nat} {α β : Type}

/-- A run that charges no node is not touched by the limit. -/
theorem free {run : Run F α} (h : ∀ t, (run.outcomeFrom t).2.nodes = t.nodes) :
    Limited limit α run run := by
  intro t
  rw [h t]
  exact ⟨Nat.le_refl _, fun ht => ⟨fun _ => rfl, fun hn => absurd ht (Nat.not_le.2 hn)⟩⟩

theorem charge : Limited limit Unit (Run.charge (config.withNodes none) : Run F Unit)
    (Run.charge (config.withNodes (some limit))) := by
  intro t
  rw [outcomeFrom_charge, outcomeFrom_charge]
  refine ⟨Nat.le_succ _, fun _ => ⟨fun hn => ?_, fun hn => ?_⟩⟩
  · have hle : ¬ limit < t.nodes + 1 := Nat.not_lt.2 hn
    simp [Config.withNodes, hle]
  · have hlt : limit < t.nodes + 1 := hn
    simp [Config.withNodes, hlt]

theorem bind {run limited : Run F α} {f f' : α → Run F β} (hr : Limited limit α run limited)
    (hf : ∀ a, Limited limit β (f a) (f' a)) :
    Limited limit β (run >>= f) (limited >>= f') := by
  intro t
  obtain ⟨hle, hlim⟩ := hr t
  rcases h : run.outcomeFrom t with ⟨err | a, t'⟩ <;> rw [h] at hle hlim
  · rw [outcomeFrom_bind_of_error h]
    refine ⟨hle, fun ht => ⟨fun hn => ?_, fun hn => ?_⟩⟩
    · exact outcomeFrom_bind_of_error ((hlim ht).1 hn)
    · exact outcomeFrom_bind_error ((hlim ht).2 hn)
  · rw [outcomeFrom_bind_of_ok h]
    obtain ⟨hle', hlim'⟩ := hf a t'
    refine ⟨Nat.le_trans hle hle', fun ht => ?_⟩
    by_cases hn : t'.nodes ≤ limit
    · rw [outcomeFrom_bind_of_ok ((hlim ht).1 hn)]
      exact hlim' hn
    -- The first run is stopped already, and the second one charges no fewer nodes.
    · have hn := Nat.not_le.1 hn
      exact ⟨fun hend => absurd (Nat.le_trans hle' hend) (Nat.not_le.2 hn),
        fun _ => outcomeFrom_bind_error ((hlim ht).2 hn)⟩

end Limited

/-- A limit on the nodes respects the steps that runs consist of. -/
theorem limited_congruence (config : Config) (limit : Nat) :
    Congruence (config.withNodes none) (config.withNodes (some limit)) (Limited (F := F) limit)
    where
  tenantNamespace := rfl
  regexStrategy := rfl
  ofResult r := .free fun t => by rw [outcomeFrom_ofResult]
  record event := .free fun _ => rfl
  charge := .charge
  bind := .bind

/-! ## Depth -/

/-- A run against the same run with more depth for functions: unless the first finds functions
    nested too deeply, both have the same outcome. -/
def Deepened (α : Type) (run deeper : Run F α) : Prop :=
  ∀ t, ¬ (run.outcomeFrom t).1.IsTooDeep → deeper.outcomeFrom t = run.outcomeFrom t

/-- More depth respects the steps that runs consist of. -/
theorem deepened_congruence (config : Config) (n m : Nat) :
    Congruence (config.withDepth n) (config.withDepth m) (Deepened (F := F)) where
  tenantNamespace := rfl
  regexStrategy := rfl
  ofResult r := fun _ _ => rfl
  record event := fun _ _ => rfl
  charge := fun t _ => by
    rw [outcomeFrom_charge, outcomeFrom_charge]
    rfl
  bind := by
    intro α β run deeper f f' hr hf t hdeep
    rcases h : run.outcomeFrom t with ⟨err | a, t'⟩
    · rw [outcomeFrom_bind_of_error h] at hdeep ⊢
      have hr := hr t (by rw [h]; exact fun ⟨err, he, hc⟩ => hdeep ⟨err, by cases he; rfl, hc⟩)
      exact outcomeFrom_bind_of_error (hr.trans h)
    · rw [outcomeFrom_bind_of_ok h] at hdeep ⊢
      have hr := hr t (by rw [h]; exact fun ⟨err, he, _⟩ => by cases he)
      rw [outcomeFrom_bind_of_ok (hr.trans h)]
      exact hf a t' hdeep

/-- Where functions are nested too deeply, nothing is said about more depth. -/
theorem Deepened.throw {α : Type} (description : String) (limit : Nat) (deeper : Run F α) :
    Deepened α (throw (.depthExceeded description limit)) deeper :=
  fun _ h => absurd ⟨_, rfl, rfl⟩ h

end Run

/-! ## Deciding -/

theorem evaluateWithin_limited [CharacterNames] (config : Config) (call : Meaning F) (actor : Value)
    (limit : Nat) (remaining : Nat) : ∀ e resources opened,
      Run.Limited limit Bool
        (evaluateWithin (config.withNodes none) call actor remaining resources opened e)
        (evaluateWithin (config.withNodes (some limit)) call actor remaining resources opened e) := by
  have hc := Run.limited_congruence (F := F) config limit
  induction remaining with
  | zero => exact hc.evaluateNode fun fn description resources opened => hc.ofResult (.error _)
  | succ remaining ih =>
    exact hc.evaluateNode fun fn description resources opened =>
      hc.bind (hc.expand call actor _ fn description) fun e => ih e resources opened

/-- The depth at which a function is called does not depend on how much depth is left. -/
theorem calledDepth_eq (n extra remaining : Nat) :
    n + extra - (remaining + extra + 1) = n - (remaining + 1) := by
  omega

theorem evaluateWithin_deepened [CharacterNames] (config : Config) (call : Meaning F)
    (actor : Value) (n extra remaining : Nat) : ∀ e resources opened,
      Run.Deepened Bool
        (evaluateWithin (config.withDepth n) call actor remaining resources opened e)
        (evaluateWithin (config.withDepth (n + extra)) call actor (remaining + extra) resources
          opened e) := by
  have hc := Run.deepened_congruence (F := F) config n (n + extra)
  induction remaining with
  | zero =>
    cases 0 + extra with
    | zero => exact hc.evaluateNode fun fn description resources opened => .throw _ _ _
    | succ m => exact hc.evaluateNode fun fn description resources opened => .throw _ _ _
  | succ remaining ih =>
    rw [Nat.succ_add]
    refine hc.evaluateNode fun fn description resources opened => hc.bind ?_ fun e => ih e _ _
    show Run.Deepened _ (Run.expand call actor (n - (remaining + 1)) fn description)
      (Run.expand call actor (n + extra - (remaining + extra + 1)) fn description)
    rw [calledDepth_eq]
    exact hc.expand call actor _ fn description

/-! ## Compiling -/

theorem compileWithin_limited (config : Config) (call : Meaning F) (d : Declarations)
    (actor : Value) (limit remaining : Nat) : ∀ e opened,
      Run.Limited limit Clause
        (compileWithin (config.withNodes none) call d actor remaining opened e)
        (compileWithin (config.withNodes (some limit)) call d actor remaining opened e) := by
  have hc := Run.limited_congruence (F := F) config limit
  induction remaining with
  | zero => exact hc.compileNode fun fn description opened => hc.ofResult (.error _)
  | succ remaining ih =>
    exact hc.compileNode fun fn description opened =>
      hc.bind (hc.expand call actor _ fn description) fun e => ih e opened

theorem compileWithin_deepened (config : Config) (call : Meaning F) (d : Declarations)
    (actor : Value) (n extra remaining : Nat) : ∀ e opened,
      Run.Deepened Clause
        (compileWithin (config.withDepth n) call d actor remaining opened e)
        (compileWithin (config.withDepth (n + extra)) call d actor (remaining + extra) opened
          e) := by
  have hc := Run.deepened_congruence (F := F) config n (n + extra)
  induction remaining with
  | zero =>
    cases 0 + extra with
    | zero => exact hc.compileNode fun fn description opened => .throw _ _ _
    | succ m => exact hc.compileNode fun fn description opened => .throw _ _ _
  | succ remaining ih =>
    rw [Nat.succ_add]
    refine hc.compileNode fun fn description opened => hc.bind ?_ fun e => ih e _
    show Run.Deepened _ (Run.expand call actor (n - (remaining + 1)) fn description)
      (Run.expand call actor (n + extra - (remaining + extra + 1)) fn description)
    rw [calledDepth_eq]
    exact hc.expand call actor _ fn description

/-! ## Rules -/

/-- Limits leave the outcome of a run as it is, or stop the run: a limit on the nodes does so
    just if the run charges more nodes without it, and more depth for functions changes nothing
    unless they were nested too deeply. -/
structure Run.KeepsOutcome {α : Type} (config : Config) (run : Config → Run F α) : Prop where
  within : ∀ limit, (run (config.withNodes none)).outcome.2.nodes ≤ limit →
    (run (config.withNodes (some limit))).outcome = (run (config.withNodes none)).outcome
  beyond : ∀ limit, limit < (run (config.withNodes none)).outcome.2.nodes →
    (run (config.withNodes (some limit))).result = .error (.budgetExceeded limit)
  deeper : ∀ n m, n ≤ m → ¬ (run (config.withDepth n)).result.IsTooDeep →
    (run (config.withDepth m)).outcome = (run (config.withDepth n)).outcome

theorem Run.KeepsOutcome.of_related {α : Type} {run : Config → Run F α}
    (hl : ∀ limit, Limited limit α (run (config.withNodes none)) (run (config.withNodes (some limit))))
    (hd : ∀ n extra, Deepened α (run (config.withDepth n)) (run (config.withDepth (n + extra)))) :
    KeepsOutcome config run where
  within limit hn := ((hl limit {}).2 limit.zero_le).1 hn
  beyond limit hn := ((hl limit {}).2 limit.zero_le).2 hn
  deeper n m hnm hdeep := by
    obtain ⟨extra, rfl⟩ := Nat.exists_eq_add_of_le hnm
    exact hd n extra {} hdeep

/-- **Limits never change an answer.**  Whether a rule is decided or compiled, a limit on the nodes
    or on the depth of functions stops the run or else leaves its outcome as it is; and compiling
    charges, where it succeeds, the nodes of the rule and of all that its functions return. -/
theorem Rule.limits_keep_outcome [CharacterNames] (config : Config) (call : Meaning F)
    (d : Declarations) (actor resources : Value) (r : Rule F) :
    Run.KeepsOutcome config (fun c => r.evaluate c call actor resources) ∧
      Run.KeepsOutcome config (fun c => r.compile c call d actor) ∧
      ∀ c, (r.compile (config.withNodes none) call d actor).result = .ok c →
        (r.compile (config.withNodes none) call d actor).outcome.2.nodes =
          r.weight config call actor := by
  refine ⟨.of_related (fun limit => ?_) fun n extra => ?_,
    .of_related (fun limit => ?_) fun n extra => ?_, fun c h => (Rule.compile_charges h).1⟩
  · have hc := Run.limited_congruence (F := F) config limit
    exact hc.bind (hc.ofResult _) fun e => evaluateWithin_limited config call actor limit _ e _ _
  · have hc := Run.deepened_congruence (F := F) config n (n + extra)
    exact hc.bind (hc.ofResult _) fun e => evaluateWithin_deepened config call actor n extra n e _ _
  · have hc := Run.limited_congruence (F := F) config limit
    exact hc.bind (hc.ofResult _) fun e => compileWithin_limited config call d actor limit _ e _
  · have hc := Run.deepened_congruence (F := F) config n (n + extra)
    exact hc.bind (hc.ofResult _) fun e => compileWithin_deepened config call d actor n extra n e _

section

attribute [local instance] CharacterNames.empty

/-- Deciding whether a function holds or not stops after four nodes, compiling visits all five;
    one call along a path is enough for both. -/
theorem Rule.limits_keep_outcome_of_call :
    let call : Meaning Unit := fun _ _ => .ok (.expr (.not (.literal false)))
    let r : Rule Unit := .expr (.junction .or [.function () "admin", .literal false])
    let evaluate (c : Config) := r.evaluate c call .null .null
    let compile (c : Config) := r.compile c call itemTables .null
    ((evaluate (Config.withNodes {} (some 3))).result = .error (.budgetExceeded 3) ∧
      (evaluate (Config.withNodes {} (some 4))).result = .ok true ∧
      ∀ m, 1 ≤ m → (evaluate (Config.withDepth {} m)).result = .ok true) ∧
    ((compile (Config.withNodes {} (some 4))).result = .error (.budgetExceeded 4) ∧
      (compile (Config.withNodes {} (some 5))).result = .ok (.wrapped true) ∧
      (∀ m, 1 ≤ m → (compile (Config.withDepth {} m)).result = .ok (.wrapped true)) ∧
      r.weight {} call .null = 5) := by
  intro call r evaluate compile
  obtain ⟨he, hc, hw⟩ := Rule.limits_keep_outcome {} call itemTables .null .null r
  have hdeep : ∀ {α : Type} {a : α}, ¬ Result.IsTooDeep (.ok a) := by
    rintro α a ⟨err, h, -⟩
    cases h
  refine ⟨⟨he.beyond 3 (by decide), ?_, fun m hm => ?_⟩, hc.beyond 4 (by decide), ?_, fun m hm => ?_,
    (hw (.wrapped true) rfl).symm⟩
  · exact congrArg Prod.fst (he.within 4 (by decide))
  · exact congrArg Prod.fst (he.deeper 1 m hm hdeep)
  · exact congrArg Prod.fst (hc.within 5 (by decide))
  · exact congrArg Prod.fst (hc.deeper 1 m hm hdeep)

end

end Clearance
